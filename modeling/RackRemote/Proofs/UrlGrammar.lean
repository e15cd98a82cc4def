import Mathlib.Data.List.DropRight
import RackRemote.Host.Registration
import RackRemote.Proofs.Desk
import RackRemote.Proofs.Framing
import RackRemote.Proofs.RouteGrammar
import RackRemote.Proofs.Scalars

/-!
# The grammar of origin URLs

A `Spelling` of an origin is a URL that denotes it, taken apart into its protocol, its host as it is
written, the digits of its port and its path. `OriginUrl.read` takes the URLs that are spellings and no
others. `OriginUrl.render` picks one of the spellings, so that reading undoes it.
-/

namespace RackRemote.Proofs

/-- How a host stands in a URL before some other text: in brackets that do not close before its end,
or as it is, if the whole does not look like brackets. -/
inductive WrittenHost (behind : List Char) : List Char → List Char → Prop where
  | bracketed {host : List Char} (unclosed : ']' ∉ host) :
      WrittenHost behind ('[' :: host ++ [']']) host
  | plain {host : List Char} (nonempty : host ≠ []) (noColon : ':' ∉ host) (noSlash : '/' ∉ host)
      (unbracketed : ¬((host ++ behind).head? = some '[' ∧ ']' ∈ host ++ behind)) :
      WrittenHost behind host host

/-- The parts of a URL that denotes an origin. -/
structure Spelling (o : OriginUrl) where
  host : String
  digits : String
  path : String
  protocol_nonempty : o.protocol ≠ ""
  protocol_alphanumeric : ∀ c ∈ o.protocol.toList, c.isAlphanum
  written : WrittenHost (':' :: digits.toList ++ path.toList) host.toList o.host.toList
  digits_nonempty : digits ≠ ""
  digits_decimal : ∀ c ∈ digits.toList, c.isDigit
  port : Nat.ofDigitChars 10 digits.toList 0 = o.port.toNat
  path_start : path = "" ∨ path.toList.head? = some '/'
  /-- The origin has the path without its trailing slashes. -/
  path_trimmed : ∃ n, path.toList = o.path.toList ++ List.replicate n '/'
  path_end : o.path.toList.getLast? ≠ some '/'

def Spelling.url {o : OriginUrl} (s : Spelling o) : String :=
  "osc." ++ o.protocol ++ "://" ++ s.host ++ ":" ++ s.digits ++ s.path

/-! ### Parts of a URL -/

lemma many_eq_some_iff {p : Char → Bool} {l front rest : List Char} :
    OriginUrl.many p l = some (front, rest) ↔ front ≠ [] ∧ (∀ c ∈ front, p c) ∧
      (∀ c, rest.head? = some c → ¬p c) ∧ l = front ++ rest := by
  rw [← span_eq_iff, OriginUrl.many]
  cases hspan : l.span p with
  | mk front' rest' =>
    cases front' with
    | nil =>
      simp only [reduceCtorEq, Prod.mk.injEq, false_iff, not_and]
      intro hne hnil
      exact absurd hnil.symm hne
    | cons c front' =>
      simp only [Option.some.injEq, Prod.mk.injEq]
      constructor
      · rintro ⟨rfl, rfl⟩
        exact ⟨List.cons_ne_nil c front', rfl, rfl⟩
      · exact fun h => h.2

lemma skip_eq_some_iff {start l rest : List Char} :
    OriginUrl.skip start l = some rest ↔ l = start ++ rest := after?_eq_some_iff

lemma bracketedHost_eq_some_iff {l host rest : List Char} :
    OriginUrl.bracketedHost l = some (host, rest) ↔
      ']' ∉ host ∧ l = '[' :: host ++ ']' :: rest := by
  rw [OriginUrl.bracketedHost]
  simp only [Option.bind_eq_bind, Option.bind_eq_some_iff, skip_eq_some_iff, Option.pure_def,
    Option.some.injEq, Prod.mk.injEq]
  constructor
  · rintro ⟨inner, rfl, _, hrest, rfl, rfl⟩
    obtain ⟨hfront, -, hinner⟩ := span_eq_iff.mp (Prod.eta (inner.span (· != ']'))).symm
    refine ⟨fun hmem => ?_, ?_⟩
    · simpa using hfront _ hmem
    · rw [hrest] at hinner
      exact congrArg (List.cons '[') hinner
  · rintro ⟨hfree, rfl⟩
    have hspan : (host ++ ']' :: rest).span (· != ']') = (host, ']' :: rest) := by
      refine span_eq_iff.mpr ⟨fun c hc => ?_, fun c hc => ?_, rfl⟩
      · rw [bne_iff_ne]
        rintro rfl
        exact hfree hc
      · cases hc
        simp
    refine ⟨host ++ ']' :: rest, rfl, rest, ?_, ?_, rfl⟩
    · rw [hspan]
      rfl
    · rw [hspan]

/-- Brackets are found wherever they open and are closed somewhere. -/
lemma bracketedHost_eq_none_iff {l : List Char} :
    OriginUrl.bracketedHost l = none ↔ ¬(l.head? = some '[' ∧ ']' ∈ l) := by
  rw [Option.eq_none_iff_forall_ne_some, ← not_exists, not_iff_not]
  constructor
  · rintro ⟨⟨host, rest⟩, hfound⟩
    obtain ⟨_, rfl⟩ := bracketedHost_eq_some_iff.mp hfound
    simp
  · rintro ⟨hhead, hmem⟩
    obtain ⟨inner, rfl⟩ := List.head?_eq_some_iff.mp hhead
    have hclosed : ']' ∈ inner := by simpa using hmem
    obtain ⟨host, rest, rfl, hfree⟩ := List.eq_append_cons_of_mem hclosed
    exact ⟨(host, rest), bracketedHost_eq_some_iff.mpr ⟨hfree, rfl⟩⟩

/-- A host is read up to a colon as it is written before this colon. -/
lemma readHost_eq_some_iff {l host behind : List Char} :
    OriginUrl.readHost l = some (host, ':' :: behind) ↔
      ∃ written, l = written ++ ':' :: behind ∧ WrittenHost (':' :: behind) written host := by
  rw [OriginUrl.readHost]
  constructor
  · intro hread
    cases hfound : OriginUrl.bracketedHost l with
    | some found =>
      rw [hfound] at hread
      cases hread
      obtain ⟨hfree, rfl⟩ := bracketedHost_eq_some_iff.mp hfound
      exact ⟨'[' :: host ++ [']'], by simp, .bracketed hfree⟩
    | none =>
      rw [hfound] at hread
      obtain ⟨hnonempty, hplain, -, rfl⟩ := many_eq_some_iff.mp hread
      have hunbracketed := bracketedHost_eq_none_iff.mp hfound
      exact ⟨host, rfl, .plain hnonempty (fun hc => by simpa using hplain _ hc)
        (fun hc => by simpa using hplain _ hc) hunbracketed⟩
  · rintro ⟨written, rfl, hwritten⟩
    cases hwritten with
    | bracketed unclosed =>
      have hfound : OriginUrl.bracketedHost ('[' :: host ++ [']'] ++ ':' :: behind) =
          some (host, ':' :: behind) :=
        bracketedHost_eq_some_iff.mpr ⟨unclosed, by simp⟩
      rw [hfound]
    | plain nonempty noColon noSlash unbracketed =>
      rw [bracketedHost_eq_none_iff.mpr unbracketed]
      refine many_eq_some_iff.mpr ⟨nonempty, fun c hc => ?_, fun c hc => ?_, rfl⟩
      · rw [Bool.and_eq_true, bne_iff_ne, bne_iff_ne]
        exact ⟨fun heq => noColon (heq ▸ hc), fun heq => noSlash (heq ▸ hc)⟩
      · cases hc
        simp

lemma isAsciiDigit_eq (c : Char) : OriginUrl.isAsciiDigit c = c.isDigit := rfl

lemma isAsciiAlphanumeric_eq (c : Char) : OriginUrl.isAsciiAlphanumeric c = c.isAlphanum := by
  have hlower : ('a' ≤ c && c ≤ 'z') = c.isLower := rfl
  have hupper : ('A' ≤ c && c ≤ 'Z') = c.isUpper := (Bool.decide_and ..).symm
  have hall : c.isAlphanum = ((c.isUpper || c.isLower) || c.isDigit) := rfl
  rw [OriginUrl.isAsciiAlphanumeric, isAsciiDigit_eq, hlower, hupper, hall]
  ac_rfl

lemma portOf_eq_some_iff {digits : List Char} (hdigits : ∀ c ∈ digits, c.isDigit) {port : UInt16} :
    OriginUrl.portOf digits = some port ↔ Nat.ofDigitChars 10 digits 0 = port.toNat := by
  rw [OriginUrl.portOf, ofDigits_of_isDigit hdigits]
  by_cases hvalue : Nat.ofDigitChars 10 digits 0 < 65536
  · have hport := UInt16.toNat_ofNat_of_lt hvalue
    rw [if_pos hvalue, Option.some.injEq, ← UInt16.toNat_inj]
    exact ⟨fun h => hport.symm.trans h, hport.trans⟩
  · rw [if_neg hvalue]
    have hport := port.toNat_lt
    simp only [reduceCtorEq, false_iff]
    omega

lemma parts_eq_some_iff {l protocol host path : List Char} {port : UInt16} :
    OriginUrl.parts l = some (protocol, host, port, path) ↔
      ∃ written digits,
        l = "osc.".toList ++ (protocol ++ ("://".toList ++ (written ++ ':' :: (digits ++ path)))) ∧
        protocol ≠ [] ∧ (∀ c ∈ protocol, c.isAlphanum) ∧
        WrittenHost (':' :: (digits ++ path)) written host ∧
        digits ≠ [] ∧ (∀ c ∈ digits, c.isDigit) ∧ Nat.ofDigitChars 10 digits 0 = port.toNat ∧
        ∀ c, path.head? = some c → ¬c.isDigit := by
  rw [OriginUrl.parts]
  simp only [Option.bind_eq_bind, Option.bind_eq_some_iff, skip_eq_some_iff, Option.pure_def,
    Option.some.injEq, Prod.exists, many_eq_some_iff]
  constructor
  · rintro ⟨_, rfl, _, _, ⟨hsome, halphanumeric, -, rfl⟩, _, rfl, _, _, hhost, _, rfl, _, _,
      ⟨hdigit, hdigits, hend, rfl⟩, _, hport, heq⟩
    cases heq
    obtain ⟨written, rfl, hwritten⟩ := readHost_eq_some_iff.mp hhost
    refine ⟨written, _, rfl, hsome, fun c hc => ?_, hwritten, hdigit, hdigits,
      (portOf_eq_some_iff hdigits).mp hport, hend⟩
    rw [← isAsciiAlphanumeric_eq]
    exact halphanumeric c hc
  · rintro ⟨written, digits, rfl, hsome, halphanumeric, hwritten, hdigit, hdigits, hport, hend⟩
    refine ⟨_, rfl, protocol, _, ⟨hsome, fun c hc => ?_, fun c hc => ?_, rfl⟩, _, rfl, host, _,
      readHost_eq_some_iff.mpr ⟨written, rfl, hwritten⟩, _, rfl, digits, path,
      ⟨hdigit, hdigits, hend, rfl⟩, port, (portOf_eq_some_iff hdigits).mpr hport, rfl⟩
    · rw [isAsciiAlphanumeric_eq]
      exact halphanumeric c hc
    · cases hc
      decide

/-! ### Paths -/

/-- Trimming takes away slashes, and all of them. -/
lemma trimSlashes_eq_iff {path kept : List Char} :
    OriginUrl.trimSlashes path = kept ↔
      (∃ n, path = kept ++ List.replicate n '/') ∧ kept.getLast? ≠ some '/' := by
  have hspan : OriginUrl.trimSlashes path = kept ↔
      ∃ front, path.reverse.span (· == '/') = (front, kept.reverse) := by
    rw [OriginUrl.trimSlashes, List.reverse_eq_iff, List.span_eq_takeWhile_dropWhile]
    simp only [Prod.mk.injEq, exists_eq_left']
  rw [hspan]
  simp only [span_eq_iff, List.head?_reverse]
  constructor
  · rintro ⟨front, hfront, hkept, hpath⟩
    refine ⟨⟨front.length, ?_⟩, fun hlast => hkept '/' hlast rfl⟩
    have hslashes : front = List.replicate front.length '/' :=
      List.eq_replicate_of_mem fun c hc => beq_iff_eq.mp (hfront c hc)
    rw [← List.reverse_reverse path, hpath, List.reverse_append, List.reverse_reverse]
    conv_lhs => rw [hslashes, List.reverse_replicate]
  · rintro ⟨⟨n, rfl⟩, hkept⟩
    refine ⟨List.replicate n '/', fun c hc => ?_, fun c hc heq => ?_, ?_⟩
    · rw [List.eq_of_mem_replicate hc]
      rfl
    · exact hkept (hc.trans (congrArg some (beq_iff_eq.mp heq)))
    · rw [List.reverse_append, List.reverse_replicate]

/-! ### Whole URLs -/

lemma Spelling.toList_url {o : OriginUrl} (s : Spelling o) :
    s.url.toList = "osc.".toList ++ (o.protocol.toList ++ ("://".toList ++ (s.host.toList ++
      ':' :: (s.digits.toList ++ s.path.toList)))) := by
  simp [Spelling.url, String.toList_append]

lemma read_url {o : OriginUrl} (s : Spelling o) : OriginUrl.read s.url = .ok o := by
  have hpath : s.path.toList = [] ∨ s.path.toList.head? = some '/' :=
    s.path_start.imp_left String.toList_eq_nil_iff.mpr
  have hend : ∀ c, s.path.toList.head? = some c → ¬c.isDigit := by
    intro c hc
    rcases hpath with hnil | hslash
    · rw [hnil] at hc
      cases hc
    · rw [hslash] at hc
      cases hc
      decide
  have hparts : OriginUrl.parts s.url.toList =
      some (o.protocol.toList, o.host.toList, o.port, s.path.toList) :=
    parts_eq_some_iff.mpr ⟨s.host.toList, s.digits.toList, s.toList_url,
      fun hnil => s.protocol_nonempty (String.toList_eq_nil_iff.mp hnil), s.protocol_alphanumeric,
      s.written, fun hnil => s.digits_nonempty (String.toList_eq_nil_iff.mp hnil),
      s.digits_decimal, s.port, hend⟩
  have hkept := trimSlashes_eq_iff.mpr ⟨s.path_trimmed, s.path_end⟩
  rw [OriginUrl.read, hparts]
  dsimp only
  rw [if_pos hpath, hkept, String.ofList_toList, String.ofList_toList, String.ofList_toList]

lemma exists_spelling {url : String} {o : OriginUrl} (h : OriginUrl.read url = .ok o) :
    ∃ s : Spelling o, s.url = url := by
  rw [OriginUrl.read] at h
  cases hparts : OriginUrl.parts url.toList with
  | none =>
    rw [hparts] at h
    cases h
  | some found =>
    obtain ⟨protocol, host, port, path⟩ := found
    rw [hparts] at h
    dsimp only at h
    split at h
    · rename_i hpath
      cases h
      obtain ⟨written, digits, hurl, hsome, halphanumeric, hwritten, hdigit, hdigits, hport, -⟩ :=
        parts_eq_some_iff.mp hparts
      obtain ⟨htrimmed, hlast⟩ := trimSlashes_eq_iff.mp (rfl : OriginUrl.trimSlashes path = _)
      let s : Spelling ⟨String.ofList protocol, String.ofList host, port,
          String.ofList (OriginUrl.trimSlashes path)⟩ :=
        { host := String.ofList written
          digits := String.ofList digits
          path := String.ofList path
          protocol_nonempty := by simpa using hsome
          protocol_alphanumeric := by simpa using halphanumeric
          written := by simpa using hwritten
          digits_nonempty := by simpa using hdigit
          digits_decimal := by simpa using hdigits
          port := by simpa using hport
          path_start := by simpa using hpath
          path_trimmed := by simpa using htrimmed
          path_end := by simpa using hlast }
      refine ⟨s, String.toList_inj.mp ?_⟩
      rw [s.toList_url, hurl]
      simp [s]
    · cases h

/-! ### Writing a URL -/

lemma WrittenHost.render {behind written host : List Char} (h : WrittenHost behind written host)
    (other : List Char) :
    WrittenHost other (if ']' ∈ host then host else '[' :: host ++ [']']) host := by
  by_cases hclosing : ']' ∈ host
  · rw [if_pos hclosing]
    cases h with
    | bracketed unclosed => exact absurd hclosing unclosed
    | plain nonempty noColon noSlash unbracketed =>
      refine .plain nonempty noColon noSlash fun hbrackets => unbracketed ⟨?_, ?_⟩
      · rw [List.head?_append_of_ne_nil _ nonempty] at hbrackets ⊢
        exact hbrackets.1
      · exact List.mem_append_left behind hclosing
  · rw [if_neg hclosing]
    exact .bracketed hclosing

/-- What is rendered spells the origin again, if there is a spelling at all. -/
lemma exists_rendered {o : OriginUrl} (s : Spelling o) : ∃ s' : Spelling o, s'.url = o.render := by
  have hdigits := toDigits_isDigit o.port.toNat
  have hstart : o.path = "" ∨ o.path.toList.head? = some '/' :=
    (path_of_read (read_url s)).imp_left String.toList_eq_nil_iff.mp
  let s' : Spelling o :=
    { host := if o.host.contains ']' then o.host else "[" ++ o.host ++ "]"
      digits := o.port.toNat.repr
      path := o.path
      protocol_nonempty := s.protocol_nonempty
      protocol_alphanumeric := s.protocol_alphanumeric
      written := by
        rw [String.contains_char_eq]
        have hwritten := s.written.render (':' :: o.port.toNat.repr.toList ++ o.path.toList)
        by_cases hclosing : ']' ∈ o.host.toList
        · simpa [hclosing] using hwritten
        · simpa [hclosing, String.toList_append] using hwritten
      digits_nonempty := Nat.repr_ne_empty
      digits_decimal := by rwa [Nat.toList_repr]
      port := by
        rw [Nat.toList_repr, Nat.ofDigitChars_toDigits (by omega) (by omega)]
      path_start := hstart
      path_trimmed := ⟨0, (List.append_nil _).symm⟩
      path_end := s.path_end }
  exact ⟨s', rfl⟩

lemma read_render {url : String} {o : OriginUrl} (h : OriginUrl.read url = .ok o) :
    OriginUrl.read o.render = .ok o := by
  obtain ⟨s, -⟩ := exists_spelling h
  obtain ⟨s', hrender⟩ := exists_rendered s
  rw [← hrender]
  exact read_url s'

lemma read_eq_ok_iff {url : String} {o : OriginUrl} :
    OriginUrl.read url = .ok o ↔ ∃ s : Spelling o, s.url = url := by
  refine ⟨exists_spelling, ?_⟩
  rintro ⟨s, rfl⟩
  exact read_url s

lemma fault_of_read {url : String} {fault : OriginFault} (h : OriginUrl.read url = .error fault) :
    fault = .shape ∨ fault = .path := by
  rw [OriginUrl.read] at h
  split at h
  · cases h
    exact .inl rfl
  · split at h
    · cases h
    · cases h
      exact .inr rfl

/-- A URL is read as an origin if and only if it spells it. Every other text is refused, and nobody is
registered under it. An origin that was read can be rendered and is then read again. Its path is empty
or starts with a slash, and does not end with one. -/
theorem origin_url_is_read_as_spelled :
    (∀ url o, OriginUrl.read url = .ok o ↔ ∃ s : Spelling o, s.url = url) ∧
    (∀ url, (∀ o (s : Spelling o), s.url ≠ url) →
      ∃ fault, (fault = .shape ∨ fault = .path) ∧ OriginUrl.read url = .error fault ∧
        ∀ {κ : Type} [Courier κ] (h : Host κ) (t : Transport), h.binding t = none →
          h.register t url = (h, .error (.invalidOrigin url fault))) ∧
    ∀ url o, OriginUrl.read url = .ok o →
      OriginUrl.read o.render = .ok o ∧
      (o.path = "" ∨ o.path.toList.head? = some '/') ∧ o.path.toList.getLast? ≠ some '/' := by
  refine ⟨fun url o => read_eq_ok_iff, ?_, ?_⟩
  · intro url hnone
    cases hread : OriginUrl.read url with
    | ok o =>
      obtain ⟨s, hs⟩ := exists_spelling hread
      exact absurd hs (hnone o s)
    | error fault =>
      refine ⟨fault, fault_of_read hread, rfl, fun h t hb => register_nobody hb ?_⟩
      rw [Binding.ofUrl, hread]
      rfl
  · intro url o hread
    obtain ⟨s, -⟩ := exists_spelling hread
    exact ⟨read_render hread, (path_of_read hread).imp_left String.toList_eq_nil_iff.mp, s.path_end⟩

/-- Zeros in front of a port and slashes behind a path do not count. Brackets that close behind the port
are brackets all the same, so that no host is found. -/
theorem origin_url_is_read_as_spelled_brackets :
    let url := "osc.tcp://[::1]:00080/a//"
    let o : OriginUrl := ⟨"tcp", "::1", 80, "/a"⟩
    let torn := "osc.tcp://[::1:80/]"
    let h : Host Quota := { setup := { root := "rack" }, courier := {} }
    OriginUrl.read url = .ok o ∧ OriginUrl.read o.render = .ok o ∧
      (∀ o (s : Spelling o), s.url ≠ torn) ∧
        ∃ fault, h.register .tcp torn = (h, .error (.invalidOrigin torn fault)) := by
  intro url o torn h
  obtain ⟨hspelled, hrefused, hrendered⟩ := origin_url_is_read_as_spelled
  have hread : OriginUrl.read url = .ok o := by decide +kernel
  have htorn : OriginUrl.read torn = .error .shape := by decide +kernel
  have hnone : ∀ o (s : Spelling o), s.url ≠ torn := by
    intro o s hs
    rw [(hspelled torn o).mpr ⟨s, hs⟩] at htorn
    cases htorn
  obtain ⟨fault, _, _, hregister⟩ := hrefused torn hnone
  exact ⟨hread, (hrendered url o hread).1, hnone, fault, hregister h .tcp rfl⟩

end RackRemote.Proofs
