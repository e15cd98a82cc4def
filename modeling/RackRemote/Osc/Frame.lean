import RackRemote.Osc.Bytes
/-!
# Frames of a stream

On a stream every packet follows its length, a big-endian number of four bytes. `split` cuts what
arrived on one connection into frames and says how the connection ended. `feed` does the same piece
by piece, as the bytes arrive.
-/

namespace RackRemote.Osc

/-- A packet with its length in front. -/
def frame (bytes : List UInt8) : List UInt8 := bigEndian 4 bytes.length ++ bytes

/-- The longest packet accepted on a stream. -/
def maxFrame : Nat := 1 <<< 20

/-- How the input of a connection ended. -/
inductive StreamEnd where
  /-- Between two frames, or within the four bytes of a length. -/
  | clean
  /-- Within a packet. -/
  | cut
  /-- A length over the limit was announced. -/
  | overlong (size : Nat)
deriving DecidableEq, Repr

/-- What is noted about a connection that ended. -/
def StreamEnd.text : StreamEnd → String
  | .clean => "closed"
  | .cut => "early eof"
  | .overlong size => "frame of " ++ size.repr ++ " bytes exceeds limit"

/-- The frames of a stream, in order, and how it ended. -/
def split (bytes : List UInt8) : List (List UInt8) × StreamEnd :=
  match bytes with
  | a :: b :: c :: d :: rest =>
    let size := ofBigEndian [a, b, c, d]
    if maxFrame < size then ([], .overlong size)
    else if rest.length < size then ([], .cut)
    else
      let (frames, stop) := split (rest.drop size)
      (rest.take size :: frames, stop)
  | _ => ([], .clean)
termination_by bytes.length
decreasing_by
  simp only [List.length_cons, List.length_drop]
  omega

/-- The frames that are whole once a piece has arrived behind `rest`, and what is left behind them. -/
def feed (rest piece : List UInt8) : List (List UInt8) × List UInt8 :=
  let bytes := rest ++ piece
  let frames := (split bytes).1
  (frames, bytes.drop (frames.flatMap frame).length)

end RackRemote.Osc
