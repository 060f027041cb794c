import Mathlib.Data.List.Basic
import VncAccess.Proofs.Lemmas.Frames
import VncAccess.Proofs.Lemmas.Requests

/-!
# Requests to a display server come in order

Whatever the server answers, and wherever a call stops, the server is asked for one key only, at
most one property is replaced, and a connection that was opened is closed at the end.
-/

namespace VncAccess

namespace Display

def Event.isAttempt : Event → Bool
  | opened _ => true
  | _ => false

def Event.isChange : Event → Bool
  | changed .. => true
  | _ => false

/-- The order in which one call asks a server for things, for one key of one display. -/
structure Orderly (key : Text) (display : Option Text) (before : Server) (returned : Bool)
    (events : List Event) (after : Server) : Prop where
  recorded : after.events = before.events ++ events
  attempts : events.countP Event.isAttempt ≤ 1
  closes : before.refusal = none → (∃ d, .opened d ∈ events) →
    events.count .closed = 1 ∧ events.getLast? = some .closed
  stops : before.refusal ≠ none → ∀ e ∈ events, e = .opened display
  looks : ∀ k onlyIfExists atom, .lookedUp k onlyIfExists atom ∈ events →
    k = key ∧ onlyIfExists = true
  changes : events.countP Event.isChange ≤ 1
  replaces : ∀ earlier later atom type format payload mode,
    events = earlier ++ .changed atom type format payload mode :: later →
      .lookedUp key true atom ∈ earlier ∧ atom ≠ 0 ∧
        type = stringType ∧ format = 8 ∧ mode = replaceMode
  properties : after.properties = before.properties ∨ ∃ atom payload,
    replacing atom payload ∈ events ∧
      after.properties = Server.putProperty before.properties atom payload
  completes : returned = true → ∃ earlier atom payload,
    events = earlier ++ [replacing atom payload, .synced, .closed] ∧
      after.properties = Server.putProperty before.properties atom payload

/-! ## Exchanges and conversations -/

variable {key : Text} {display : Option Text} {s : Server} {old new : List (Nat × Bytes)}
  {done : Bool} {events : List Event}

/-- A list of requests changes nothing, or holds one change to an atom that was found before. -/
inductive ChangesOnce (key : Text) (events : List Event) : Prop where
  | never : (∀ e ∈ events, e.isChange = false) → ChangesOnce key events
  | once {earlier later : List Event} {atom : Nat} {payload : Bytes} :
      events = earlier ++ replacing atom payload :: later →
      (∀ e ∈ earlier, e.isChange = false) → (∀ e ∈ later, e.isChange = false) →
      .lookedUp key true atom ∈ earlier → atom ≠ 0 → ChangesOnce key events

namespace ChangesOnce

theorem countP_le (h : ChangesOnce key events) : events.countP Event.isChange ≤ 1 := by
  cases h with
  | never none => rw [List.countP_eq_zero.mpr (by simpa using none)]; exact Nat.zero_le 1
  | once eq before after =>
      rw [eq, List.countP_append, List.countP_cons, List.countP_eq_zero.mpr (by simpa using before),
        List.countP_eq_zero.mpr (by simpa using after)]
      exact Nat.le_refl 1

theorem eq_replacing (h : ChangesOnce key events) {earlier later : List Event}
    {atom type format mode : Nat} {payload : Bytes}
    (eq : events = earlier ++ .changed atom type format payload mode :: later) :
    .lookedUp key true atom ∈ earlier ∧ atom ≠ 0 ∧
      type = stringType ∧ format = 8 ∧ mode = replaceMode := by
  have changed : Event.isChange (.changed atom type format payload mode) = true := rfl
  cases h with
  | never none =>
      rw [none _ (by simp [eq])] at changed
      cases changed
  | @once earlier' later' atom' payload' eq' before after looked nonzero =>
      have absent {l : List Event} (none : ∀ e ∈ l, e.isChange = false) :
          .changed atom type format payload mode ∉ l := by
        intro he
        rw [none _ he] at changed
        cases changed
      obtain ⟨rfl, same, -⟩ :=
        (List.append_cons_inj_of_notMem (absent before) (absent after)).mp (eq'.symm.trans eq)
      obtain ⟨rfl, rfl, rfl, rfl, rfl⟩ := Event.changed.inj same
      exact ⟨looked, nonzero, rfl, rfl, rfl⟩

end ChangesOnce

theorem Lookups.isChange {e : Event} (h : Lookups key events) (he : e ∈ events) :
    e.isChange = false := by
  obtain ⟨atom, rfl⟩ := h e he
  rfl

namespace Exchange

theorem mem_cases (h : Exchange key old done events new) {e : Event} (he : e ∈ events) :
    (∃ atom, e = .lookedUp key true atom) ∨ (∃ atom payload, e = replacing atom payload) ∨
      e = .synced := by
  cases h with
  | asked lookups => exact .inl (lookups e he)
  | @refused _ atom payload lookups =>
      rcases List.mem_append.mp he with he | he
      · exact .inl (lookups e he)
      · exact .inr (.inl ⟨atom, payload, List.mem_singleton.mp he⟩)
  | @changed _ atom payload _ lookups =>
      rcases List.mem_append.mp he with he | he
      · exact .inl (lookups e he)
      · rcases List.mem_pair.mp he with rfl | rfl
        · exact .inr (.inl ⟨atom, payload, rfl⟩)
        · exact .inr (.inr rfl)

theorem isAttempt (h : Exchange key old done events new) {e : Event} (he : e ∈ events) :
    e.isAttempt = false := by
  rcases h.mem_cases he with ⟨_, rfl⟩ | ⟨_, _, rfl⟩ | rfl <;> rfl

theorem closed_notMem (h : Exchange key old done events new) : .closed ∉ events := by
  intro he
  rcases h.mem_cases he with ⟨_, h⟩ | ⟨_, _, h⟩ | h <;> cases h

theorem changesOnce (h : Exchange key old done events new) (display : Option Text) :
    ChangesOnce key (.opened display :: (events ++ [.closed])) := by
  have before {l : List Event} (lookups : Lookups key l) :
      ∀ e ∈ Event.opened display :: l, e.isChange = false :=
    List.forall_mem_cons.mpr ⟨rfl, fun _ => lookups.isChange⟩
  cases h with
  | asked lookups =>
      refine .never (List.forall_mem_cons.mpr ⟨rfl, fun e he => ?_⟩)
      rcases List.mem_append.mp he with he | he
      · exact lookups.isChange he
      · obtain rfl := List.mem_singleton.mp he
        rfl
  | @refused l atom payload lookups looked nonzero =>
      have eq : .opened display :: (l ++ [replacing atom payload] ++ [.closed]) =
          .opened display :: l ++ replacing atom payload :: [.closed] := by simp
      exact .once eq (before lookups) (by simp [Event.isChange]) (List.mem_cons_of_mem _ looked)
        nonzero
  | @changed l atom payload _ lookups looked nonzero =>
      have eq : .opened display :: (l ++ [replacing atom payload, .synced] ++ [.closed]) =
          .opened display :: l ++ replacing atom payload :: [.synced, .closed] := by simp
      exact .once eq (before lookups) (by simp [Event.isChange]) (List.mem_cons_of_mem _ looked)
        nonzero

theorem properties (h : Exchange key old done events new) :
    new = old ∨ ∃ atom payload, replacing atom payload ∈ events ∧
      new = Server.putProperty old atom payload := by
  cases h with
  | asked | refused => exact .inl rfl
  | changed => exact .inr ⟨_, _, by simp, rfl⟩

theorem completes (h : Exchange key old true events new) : ∃ earlier atom payload,
    events = earlier ++ [replacing atom payload, .synced] ∧
      new = Server.putProperty old atom payload := by
  cases h with
  | changed => exact ⟨_, _, _, rfl, rfl⟩

end Exchange

theorem Conversation.orderly {after : Server} (recorded : after.events = s.events ++ events)
    (h : Conversation key display s done events after.properties) :
    Orderly key display s done events after := by
  generalize properties : after.properties = new at h
  cases h with
  | silent =>
      exact {
        recorded, attempts := Nat.zero_le 1, closes := nofun, stops := nofun, looks := nofun
        changes := Nat.zero_le 1
        replaces := by simp
        properties := .inl properties
        completes := nofun }
  | refused refusal =>
      have never : ChangesOnce key [.opened display] := .never (by simp [Event.isChange])
      exact {
        recorded
        attempts := Nat.le_refl 1
        closes := fun accepts => absurd accepts refusal
        stops := fun _ e => List.mem_singleton.mp
        looks := by simp
        changes := Nat.zero_le 1
        replaces := fun _ _ _ _ _ _ _ => never.eq_replacing
        properties := .inl properties
        completes := nofun }
  | @held _ asked _ accepts exchange =>
      subst properties
      constructor
      case recorded => exact recorded
      case attempts =>
        have none : asked.countP Event.isAttempt = 0 :=
          List.countP_eq_zero.mpr fun e he => by simp [exchange.isAttempt he]
        simp [List.countP_cons, List.countP_append, none, Event.isAttempt]
      case closes =>
        intro _ _
        simp [List.count_append, List.count_eq_zero.mpr exchange.closed_notMem,
          List.getLast?_cons]
      case stops => exact fun refusal => absurd accepts refusal
      case looks =>
        intro k onlyIfExists atom he
        have he : .lookedUp k onlyIfExists atom ∈ asked := by simpa using he
        rcases exchange.mem_cases he with ⟨_, h⟩ | ⟨_, _, h⟩ | h <;> cases h
        exact ⟨rfl, rfl⟩
      case changes => exact (exchange.changesOnce display).countP_le
      case replaces =>
        intro _ _ _ _ _ _ _ eq
        exact (exchange.changesOnce display).eq_replacing eq
      case properties =>
        rcases exchange.properties with same | ⟨atom, payload, sent, new⟩
        · exact .inl same
        · exact .inr ⟨atom, payload, by simp [sent], new⟩
      case completes =>
        rintro rfl
        obtain ⟨earlier, atom, payload, rfl, new⟩ := exchange.completes
        exact ⟨.opened display :: earlier, atom, payload, by simp, new⟩

end Display

/-! ## Calls -/

open Display

theorem keeps_server_say {n : Notice} : Keeps Host.server (Run.say n) :=
  Run.keeps_say fun _ _ => rfl

namespace OneTime

variable {p : Random.Provider} {wantView revoke : Bool} {provider : Option Random.Provider}
  {display : Option Text} {h : Host}

/-- Passwords are issued between the two lookups of the key. -/
theorem ends_issueAndSet {s : Session} {h₁ : Host} (asked : h.Asked oneTimeKey h₁) :
    Ends (do
        Run.say (.verbose ("Using " ++ p.name ++ " randomness"))
        if !p.strong then
          Run.say (.warning ("using " ++ p.name ++
            " randomness, one-time passwords may be predictable"))
        let payload ← issueAll p wantView
        s.setProperty oneTimeKey payload) h₁
      (fun _ h' => h.Exchanged oneTimeKey true h')
      (fun _ h' => h.Exchanged oneTimeKey false h') := by
  have set {h₂ : Host} (asked : h.Asked oneTimeKey h₂) :
      Ends (issueAll p wantView >>= s.setProperty oneTimeKey) h₂
        (fun _ h' => h.Exchanged oneTimeKey true h')
        (fun _ h' => h.Exchanged oneTimeKey false h') :=
    asked.bind (keeps_issueAll (fun _ _ => rfl) fun _ _ => rfl) fun _ _ => Session.ends_setProperty
  refine asked.bind keeps_server_say fun _ h₂ asked => ?_
  dsimp only
  split
  · exact asked.bind keeps_server_say fun _ _ => set
  · exact set asked

theorem ends_publish :
    Ends (publish display wantView revoke provider) h
      (fun _ h' => h.Conversed oneTimeKey display true h')
      (fun _ h' => h.Conversed oneTimeKey display false h') := by
  refine Session.ends_during fun s h₁ => ?_
  refine (Host.Asked.refl h₁).bind keeps_server_say fun _ h₂ asked => ?_
  rw [ends_bind]
  refine (Session.ends_require asked).imp ?_ fun _ _ => id
  intro _ h₃ asked
  split
  · rw [ends_bind]
    refine (Session.ends_setProperty asked).imp ?_ fun _ _ => id
    intro _ h₄ exchanged
    exact Run.ends_log.mpr exchanged
  · cases provider with
    | some p => exact ends_issueAndSet asked
    | none => exact asked.bind (keeps_bestProvider fun _ _ => rfl) fun _ _ => ends_issueAndSet

end OneTime

namespace AccessList

variable {user : Text} {add viewOnly : Bool} {display : Option Text} {h : Host}

theorem ends_publish {payload : Bytes} (accepted : entry user add viewOnly = .ok payload) :
    Ends (publish user add viewOnly display) h
      (fun _ h' => h.Conversed accessListKey display true h')
      (fun _ h' => h.Conversed accessListKey display false h') := by
  have sends (s : Session) (h₁ : Host) :
      Ends (do
          Run.say (.verbose ("Connected to display " ++ s.display))
          s.setProperty accessListKey payload
          return s) h₁
        (fun _ h' => h₁.Exchanged accessListKey true h')
        (fun _ h' => h₁.Exchanged accessListKey false h') := by
    refine (Host.Asked.refl h₁).bind keeps_server_say fun _ h₂ asked => ?_
    rw [ends_bind]
    exact Session.ends_setProperty asked
  simp only [publish, accepted]
  rw [ends_bind]
  refine (Session.ends_during sends).imp ?_ fun _ _ => id
  intro _ h₂ talk
  exact Run.ends_log.mpr talk

/-- A name that is refused does not get as far as the server. -/
theorem publish_of_error {f : NameFault} (refused : entry user add viewOnly = .error f) :
    (publish user add viewOnly display).run h = (.error f.failure, h) := by
  simp only [publish, refused]
  rfl

end AccessList

/-- However a call ends, it has asked the server for things in order. -/
def AsksInOrder (key : Text) (display : Option Text) (call : Run Unit) (h : Host) : Prop :=
  ∃ events, Orderly key display h.server (call.run h).1.isOk events (call.run h).2.server

theorem AsksInOrder.of_ends {key : Text} {display : Option Text} {call : Run Unit} {h : Host}
    (ends : Ends call h (fun _ h' => h.Conversed key display true h')
      (fun _ h' => h.Conversed key display false h')) : AsksInOrder key display call h := by
  rcases run : call.run h with ⟨_ | _, h'⟩
  · obtain ⟨events, recorded, conversation⟩ := ends.of_error run
    exact ⟨events, by rw [run]; exact conversation.orderly recorded⟩
  · obtain ⟨events, recorded, conversation⟩ := ends.of_ok run
    exact ⟨events, by rw [run]; exact conversation.orderly recorded⟩

/-- One-time passwords and changes to the list of users reach the server in order, and a user whose
name is refused does not reach it at all. -/
theorem requests_in_order (h : Host) (display : Option Text) :
    (∀ (wantView revoke : Bool) (provider : Option Random.Provider),
      AsksInOrder oneTimeKey display (OneTime.publish display wantView revoke provider) h) ∧
    ∀ (user : Text) (add viewOnly : Bool),
      AsksInOrder accessListKey display (AccessList.publish user add viewOnly display) h ∧
        ∀ f, AccessList.entry user add viewOnly = .error f →
          ((AccessList.publish user add viewOnly display).run h).2.server = h.server := by
  refine ⟨fun wantView revoke provider => .of_ends OneTime.ends_publish,
    fun user add viewOnly => ⟨?_, fun f refused => ?_⟩⟩
  · cases accepted : AccessList.entry user add viewOnly with
    | ok payload => exact .of_ends (AccessList.ends_publish accepted)
    | error f =>
        refine ⟨[], ?_⟩
        rw [AccessList.publish_of_error accepted]
        exact Conversation.orderly (List.append_nil _).symm .silent
  · rw [AccessList.publish_of_error refused]

end VncAccess
