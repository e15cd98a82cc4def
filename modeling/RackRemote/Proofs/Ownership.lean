import RackRemote.Proofs.Decisions
import RackRemote.Proofs.Desk
import RackRemote.Proofs.Moves

/-!
# Who holds a slot

The controller of a transport depends on nothing but the registrations and sign-offs made on this
transport, in their order: `Slot.next` says how. No other message, no use of the rack, no delivery
that fails and nothing on the other transport has any bearing on it.
-/

namespace RackRemote.Proofs

/-- What is asked at the desk of a transport. -/
inductive DeskRequest where
  | register (url : String)
  | unregister (url : String)
deriving DecidableEq

/-- What a message asks at the desk of the transport on which it arrives. -/
def deskRequest? (m : Osc.Message) : Option DeskRequest :=
  match m.args with
  | [.string url] =>
    if m.address = "/register" then some (.register url)
    else if m.address = "/unregister" then some (.unregister url)
    else none
  | _ => none

/-- What a move asks at the desk of a transport. -/
def deskRequests (t : Transport) : Move → List DeskRequest
  | .message t' m => if t' = t then (deskRequest? m).toList else []
  | .register t' url => if t' = t then [.register url] else []
  | .unregister t' url => if t' = t then [.unregister url] else []
  | _ => []

def address? (names : HostTable) (url : String) : Option SocketAddress :=
  match OriginUrl.read url with
  | .ok origin => (origin.resolve names).toOption
  | .error _ => none

/-- The URL that holds a slot after one more request at its desk. -/
def Slot.next (names : HostTable) (owner : Option String) : DeskRequest → Option String
  | .register url =>
    match owner with
    | none => if (address? names url).isSome then some url else none
    | some current => some current
  | .unregister url => if owner = some url then none else owner

variable {κ : Type}

/-! ### Messages at the desk -/

lemma deskRequest?_register {m : Osc.Message} {url : String}
    (hm : deskRequest? m = some (.register url)) : m = ⟨"/register", [.string url]⟩ := by
  obtain ⟨address, args⟩ := m
  rw [deskRequest?] at hm
  split at hm
  · rename_i hargs
    split at hm
    · rename_i haddress
      cases hm
      simp_all
    · split at hm <;> cases hm
  · cases hm

lemma deskRequest?_unregister {m : Osc.Message} {url : String}
    (hm : deskRequest? m = some (.unregister url)) : m = ⟨"/unregister", [.string url]⟩ := by
  obtain ⟨address, args⟩ := m
  rw [deskRequest?] at hm
  split at hm
  · rename_i hargs
    split at hm
    · cases hm
    · split at hm
      · rename_i haddress
        cases hm
        simp_all
      · cases hm
  · cases hm

variable [Courier κ]

lemma execute_binding (h : Host κ) (t t' : Transport) {order : Order}
    (hr : ∀ url, order ≠ .register url) (hu : ∀ url, order ≠ .unregister url) :
    (h.execute t order).1.binding t' = h.binding t' := by
  cases order with
  | register url => exact absurd rfl (hr url)
  | unregister url => exact absurd rfl (hu url)
  | control command request => exact (alike_ask h request command.origin).binding t'
  | plugin index key command action => exact (alike_act h key action .external).binding t'
  | forward index key method args => exact (alike_act h key (.custom method args) .external).binding t'
  | reserved index command => rfl

lemma handle_binding (h : Host κ) (t t' : Transport) (m : Osc.Message) :
    (h.handle t m).1.binding t' =
      match deskRequest? m with
      | some (.register url) => (h.register t url).1.binding t'
      | some (.unregister url) => (h.unregister t url).1.binding t'
      | none => h.binding t' := by
  have ha := (alike_handle h t m).binding t'
  cases hm : deskRequest? m with
  | some r =>
    cases r with
    | register url =>
      have hd : h.decide t m = .ok (.register url) := by
        rw [deskRequest?_register hm]
        rfl
      rw [hd] at ha
      exact ha
    | unregister url =>
      have hd : h.decide t m = .ok (.unregister url) := by
        rw [deskRequest?_unregister hm]
        rfl
      rw [hd] at ha
      exact ha
  | none =>
    cases hd : h.decide t m with
    | error reason =>
      rw [hd] at ha
      exact ha
    | ok order =>
      rw [hd] at ha
      refine ha.trans (execute_binding h t t' ?_ ?_)
      · rintro url rfl
        rw [decide_eq_register hd] at hm
        cases hm
      · rintro url rfl
        rw [decide_eq_unregister hd] at hm
        cases hm

/-! ### Slots -/

/-- The binding of a slot that a URL holds. -/
structure Seated (names : HostTable) (t : Transport) (b : Option Binding) (owner : Option String) :
    Prop where
  owner : b.map Binding.owner = owner
  /-- Whoever is registered is the one that the URL describes. -/
  described : ∀ c, b = some c → Binding.ofUrl names t c.owner = .ok c

lemma ofUrl_eq_ok {names : HostTable} {t : Transport} {url : String} {b : Binding} :
    Binding.ofUrl names t url = .ok b ↔
      ∃ origin address, OriginUrl.read url = .ok origin ∧ origin.resolve names = .ok address ∧
        b = ⟨url, ⟨t, address⟩, origin.path⟩ := by
  rw [Binding.ofUrl, bind_eq_ok]
  constructor
  · rintro ⟨origin, ho, hb⟩
    obtain ⟨address, ha, hq⟩ := bind_eq_ok.mp hb
    cases hq
    exact ⟨origin, address, ho, ha, rfl⟩
  · rintro ⟨origin, address, ho, ha, rfl⟩
    exact ⟨origin, ho, bind_eq_ok.mpr ⟨address, ha, rfl⟩⟩

lemma ofUrl_owner {names : HostTable} {t : Transport} {url : String} {b : Binding}
    (hu : Binding.ofUrl names t url = .ok b) : b.owner = url := by
  obtain ⟨_, _, _, _, rfl⟩ := ofUrl_eq_ok.mp hu
  rfl

lemma ofUrl_target {names : HostTable} {t : Transport} {url : String} {b : Binding}
    (hu : Binding.ofUrl names t url = .ok b) : b.target = ⟨t, b.target.address⟩ := by
  obtain ⟨_, _, _, _, rfl⟩ := ofUrl_eq_ok.mp hu
  rfl

lemma address?_eq_none {names : HostTable} {t : Transport} {url : String} {fault : OriginFault}
    (hu : Binding.ofUrl names t url = .error fault) : address? names url = none := by
  cases ho : OriginUrl.read url with
  | error _ => simp only [address?, ho]
  | ok origin =>
    cases ha : origin.resolve names with
    | error _ => simp only [address?, ho, ha]; rfl
    | ok address =>
      rw [ofUrl_eq_ok.mpr ⟨origin, address, ho, ha, rfl⟩] at hu
      cases hu

lemma address?_eq_some {names : HostTable} {t : Transport} {url : String} {b : Binding}
    (hu : Binding.ofUrl names t url = .ok b) : address? names url = some b.target.address := by
  obtain ⟨origin, address, ho, ha, rfl⟩ := ofUrl_eq_ok.mp hu
  simp only [address?, ho, ha]
  rfl

lemma address?_isSome {names : HostTable} {t : Transport} {url : String} {b : Binding}
    (hu : Binding.ofUrl names t url = .ok b) : (address? names url).isSome := by
  rw [address?_eq_some hu]
  rfl

lemma seated_register {h : Host κ} {t : Transport} {owner : Option String}
    (hs : Seated h.setup.names t (h.binding t) owner) (url : String) :
    Seated h.setup.names t ((h.register t url).1.binding t)
      (Slot.next h.setup.names owner (.register url)) := by
  rw [register_binding]
  cases hb : h.binding t with
  | some current =>
    rw [if_neg (by simp), ← hs.owner, hb]
    exact ⟨rfl, fun c hc => hs.described c (hb.trans hc)⟩
  | none =>
    rw [if_pos ⟨rfl, rfl⟩, ← hs.owner, hb]
    cases hu : Binding.ofUrl h.setup.names t url with
    | error fault =>
      simp only [Slot.next, Option.map_none, address?_eq_none hu]
      exact ⟨rfl, nofun⟩
    | ok b =>
      simp only [Slot.next, Option.map_none, address?_isSome hu]
      have howner := ofUrl_owner hu
      refine ⟨congrArg some howner, fun c hc => ?_⟩
      cases hc
      rw [howner, hu]

lemma seated_unregister {h : Host κ} {t : Transport} {owner : Option String}
    (hs : Seated h.setup.names t (h.binding t) owner) (url : String) :
    Seated h.setup.names t ((h.unregister t url).1.binding t)
      (Slot.next h.setup.names owner (.unregister url)) := by
  rw [unregister_binding, Slot.next, hs.owner]
  by_cases ho : owner = some url
  · rw [if_pos ⟨rfl, ho⟩, if_pos ho]
    exact ⟨rfl, nofun⟩
  · rw [if_neg (fun hc => ho hc.2), if_neg ho]
    exact hs

/-- What is asked at another desk, or at none, leaves a slot as it is. -/
lemma move_binding_of_no_request (h : Host κ) {t : Transport} {m : Move}
    (hm : deskRequests t m = []) : (move h m).binding t = h.binding t := by
  have helsewhere : ∀ {t' : Transport} {r : DeskRequest},
      (if t' = t then [r] else []) = [] → t ≠ t' := by
    rintro t' r hr rfl
    rw [if_pos rfl] at hr
    cases hr
  cases m with
  | message t' m =>
    rw [move, handle_binding]
    cases hr : deskRequest? m with
    | none => rfl
    | some r =>
      have ht : t ≠ t' := by
        apply helsewhere (r := r)
        rwa [deskRequests, hr] at hm
      cases r with
      | register url => exact register_binding_other h url ht
      | unregister url => exact unregister_binding_other h url ht
  | register t' url => exact register_binding_other h url (helsewhere hm)
  | unregister t' url => exact unregister_binding_other h url (helsewhere hm)
  | garbage t' fault => exact (alike_enter h _).binding t
  | request request origin => exact (alike_perform h request origin).binding t
  | load name => exact (alike_load h name).binding t
  | act key action origin => exact (alike_act h key action origin).binding t
  | xrun => cases t <;> rfl
  | notify e => exact (alike_notify h e).binding t
  | relay e origin => exact (alike_relay h e origin).binding t

lemma seated_move {h : Host κ} {t : Transport} {owner : Option String}
    (hs : Seated h.setup.names t (h.binding t) owner) (m : Move) :
    Seated (move h m).setup.names t ((move h m).binding t)
      ((deskRequests t m).foldl (Slot.next h.setup.names) owner) := by
  rw [move_setup]
  by_cases hm : deskRequests t m = []
  · rw [move_binding_of_no_request h hm, hm]
    exact hs
  · cases m with
    | message t' m =>
      rw [move, handle_binding]
      rw [deskRequests] at hm ⊢
      by_cases ht : t' = t
      · subst ht
        rw [if_pos rfl]
        cases hr : deskRequest? m with
        | none => exact hs
        | some r =>
          cases r with
          | register url => exact seated_register hs url
          | unregister url => exact seated_unregister hs url
      · exact absurd (if_neg ht) hm
    | register t' url =>
      rw [deskRequests] at hm ⊢
      by_cases ht : t' = t
      · subst ht
        rw [if_pos rfl]
        exact seated_register hs url
      · exact absurd (if_neg ht) hm
    | unregister t' url =>
      rw [deskRequests] at hm ⊢
      by_cases ht : t' = t
      · subst ht
        rw [if_pos rfl]
        exact seated_unregister hs url
      · exact absurd (if_neg ht) hm
    | _ => exact absurd rfl hm

lemma seated_run {h : Host κ} {t : Transport} {owner : Option String}
    (hs : Seated h.setup.names t (h.binding t) owner) (moves : List Move) :
    Seated h.setup.names t ((run h moves).binding t)
      ((moves.flatMap (deskRequests t)).foldl (Slot.next h.setup.names) owner) := by
  induction moves generalizing h owner with
  | nil => exact hs
  | cons m moves ih =>
    have hi := ih (seated_move hs m)
    rw [move_setup] at hi
    rw [run_cons, List.flatMap_cons, List.foldl_append]
    exact hi

omit [Courier κ] in
lemma seated_start {setup : Setup} {rack : Rack} {courier : κ} {h : Host κ}
    (hs : Host.start? setup rack courier = some h) (t : Transport) :
    Seated h.setup.names t (h.binding t) none := by
  rw [start?_eq_some hs]
  cases t <;> exact ⟨rfl, nofun⟩

/-- Single ownership and independence of the transports: after any run from the start, a slot is held
by the URL that its own desk requests leave there, and its binding is what this URL describes. -/
theorem binding_after_run {setup : Setup} {rack : Rack} {courier : κ} {h : Host κ}
    (hs : Host.start? setup rack courier = some h) (moves : List Move) (t : Transport) :
    ((run h moves).binding t).map Binding.owner =
      (moves.flatMap (deskRequests t)).foldl (Slot.next setup.names) none ∧
    ∀ b, (run h moves).binding t = some b →
      ∃ origin address, OriginUrl.read b.owner = .ok origin ∧
        origin.resolve setup.names = .ok address ∧
        b.target = ⟨t, address⟩ ∧ b.path = origin.path := by
  have hseated := seated_run (seated_start hs t) moves
  have hnames : h.setup.names = setup.names := by rw [start?_eq_some hs]
  rw [hnames] at hseated
  refine ⟨hseated.owner, fun b hb => ?_⟩
  obtain ⟨origin, address, ho, ha, hq⟩ := ofUrl_eq_ok.mp (hseated.described b hb)
  exact ⟨origin, address, ho, ha, congrArg Binding.target hq, congrArg Binding.path hq⟩

/-- A newcomer on TCP is refused, the owner signs off later, and all the while a controller that
gave a TCP URL is registered for datagrams. -/
theorem binding_after_run_two_desks :
    let url := "osc.tcp://127.0.0.1:19000/R/"
    let moves : List Move :=
      [.register .tcp url, .message .tcp ⟨"/register", [.string "osc.udp://[::1]:7/S"]⟩,
        .message .udp ⟨"/register", [.string url]⟩, .load "Synth", .unregister .tcp url]
    ∃ h : Host Quota, Host.start? { root := "rack" } {} { tcp := some 0 } = some h ∧
      (run h moves).binding .tcp = none ∧
      ∃ b, (run h moves).binding .udp = some b ∧ b.owner = url ∧ b.target.transport = .udp := by
  intro url moves
  have hs : Host.start? { root := "rack" } {} ({ tcp := some 0 } : Quota) =
      some { setup := { root := "rack" }, courier := { tcp := some 0 } } :=
    if_pos (by simp [isRootName])
  have htcp := (binding_after_run hs moves .tcp).1
  have hudp := binding_after_run hs moves .udp
  have hsignedOff : (moves.flatMap (deskRequests .tcp)).foldl (Slot.next HostTable.empty) none =
      none := by decide +kernel
  have hseated : (moves.flatMap (deskRequests .udp)).foldl (Slot.next HostTable.empty) none =
      some url := by decide +kernel
  obtain ⟨b, hb, howner⟩ := Option.map_eq_some_iff.mp (hudp.1.trans hseated)
  obtain ⟨_, _, _, _, htarget, _⟩ := hudp.2 b hb
  exact ⟨_, hs, Option.map_eq_none_iff.mp (htcp.trans hsignedOff), b, hb, howner,
    congrArg Target.transport htarget⟩

end RackRemote.Proofs
