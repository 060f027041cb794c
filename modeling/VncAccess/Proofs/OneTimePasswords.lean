import VncAccess.Proofs.Lemmas.Issuing

/-!
# One-time passwords are sent as they are shown

The operator reads the slots of the payload that the server receives. Nothing is drawn for a server
that does not know the key, nothing is sent after a draw that failed, and a source that can be
guessed is named before the first password.
-/

namespace VncAccess

open Display

/-! ## Steps on the server -/

namespace Display

namespace Server

variable {s : Server} {key : Text}

/-- The server lets a client in and knows the key. -/
def Admits (s : Server) (key : Text) : Prop := s.refusal = none ∧ s.atomOf key ≠ 0

/-- The server when a client was let in and has looked up a key. -/
def admitted (s : Server) (display : Option Text) (key : Text) : Server :=
  ((s.record (.opened display)).lookup key).2

/-- The server knows a key and carries out a change of its property. -/
structure Takes (s : Server) (key : Text) : Prop where
  found : s.atomOf key ≠ 0
  changes : s.changeFault = none
  syncs : s.syncFault = none

/-- What reaches a server that is given a payload, and whether all went well. -/
inductive Delivery (s : Server) (key : Text) (payload : Bytes) : Bool → List Bytes → Prop where
  | taken : s.Takes key → Delivery s key payload true [payload]
  | failed : ¬ s.Takes key → Delivery s key payload false [payload]
  | unsent : ¬ s.Takes key → Delivery s key payload false []

namespace Delivery

variable {payload : Bytes} {done : Bool} {sent : List Bytes}

theorem done_iff (h : s.Delivery key payload done sent) : done = true ↔ s.Takes key := by
  cases h with
  | taken takes => exact iff_of_true rfl takes
  | failed not | unsent not => exact iff_of_false Bool.false_ne_true not

theorem sent_eq (h : s.Delivery key payload true sent) : sent = [payload] := by
  cases h
  rfl

theorem eq_of_mem (h : s.Delivery key payload done sent) : ∀ x ∈ sent, x = payload := by
  cases h <;> simp

end Delivery

theorem payloads_record (s : Server) (e : Event) :
    (s.record e).payloads = s.payloads ++ e.payload?.toList := by
  cases h : e.payload? <;> simp [payloads, record, h]

theorem payloads_lookup (s : Server) (key : Text) : (s.lookup key).2.payloads = s.payloads := by
  simp [lookup, payloads, record, Event.payload?]

theorem payloads_admitted (s : Server) (display : Option Text) (key : Text) :
    (s.admitted display key).payloads = s.payloads := by
  rw [admitted, payloads_lookup, payloads_record]
  exact List.append_nil _

theorem payloads_change (s : Server) (atom : Nat) (payload : Bytes) :
    (s.change atom payload).2.payloads = s.payloads ++ [payload] := by
  unfold change
  split <;> exact payloads_record _ _

theorem payloads_sync (s : Server) : s.sync.2.payloads = s.payloads :=
  (payloads_record _ _).trans (List.append_nil _)

theorem payloads_close (s : Server) : s.close.payloads = s.payloads :=
  (payloads_record _ _).trans (List.append_nil _)

theorem change_fst (s : Server) (atom : Nat) (payload : Bytes) :
    (s.change atom payload).1 = match s.changeFault with | some e => .error e | none => .ok () := by
  cases h : s.changeFault <;> simp [change, h]

theorem sync_fst (s : Server) :
    s.sync.1 = match s.syncFault with | some e => .error e | none => .ok () := rfl

theorem syncFault_change (s : Server) (atom : Nat) (payload : Bytes) :
    (s.change atom payload).2.syncFault = s.syncFault := by
  unfold change
  split <;> rfl

end Server
end Display

/-- Between the hosts a payload was delivered, as far as the server took it. -/
def Host.Delivered (h : Host) (key : Text) (payload : Bytes) (done : Bool) (h' : Host) : Prop :=
  ∃ lines sent, Quiet lines ∧ h.server.Delivery key payload done sent ∧ h.Progress h' [] lines sent

namespace Display.Session

variable {s : Session} {key : Text} {h : Host}

theorem ends_atom_iff {ok : Nat → Host → Prop} {bad : Failure → Host → Prop} :
    Ends (s.atom key) h ok bad ↔
      if h.server.atomOf key = 0 then
        bad (.refused (.unsupported s.display key (feature key)))
          { h with server := (h.server.lookup key).2 }
      else
        ok (h.server.atomOf key) { h with
          server := (h.server.lookup key).2
          console := h.console.note "vncpasswd.session"
            ("Resolved property " ++ key ++ " to atom " ++
              Decimal.natural (h.server.atomOf key)) } := by
  simp only [atom, ends_bind, ends_onServer, Server.lookup]
  by_cases none : h.server.atomOf key = 0
  · rw [if_pos none, if_pos none]
    rfl
  · rw [if_neg none, if_neg none]
    simp only [ends_bind, Run.ends_log, ends_pure]

/-- A payload that the server does not take may have reached it all the same. -/
theorem ends_setProperty_delivered {payload : Bytes} :
    Ends (s.setProperty key payload) h (fun _ h' => h.Delivered key payload true h')
      (fun _ h' => h.Delivered key payload false h') := by
  simp only [setProperty, ends_bind, ends_atom_iff]
  split
  · next unknown =>
      refine ⟨[], [], .nil, .unsent fun takes => takes.found unknown, ?_⟩
      exact ⟨(List.append_nil _).symm, Console.plus_nil.symm, by simp [Server.payloads_lookup]⟩
  next found =>
  obtain ⟨lines, quiet, noted⟩ := h.console.note_plus "vncpasswd.session"
    ("Resolved property " ++ key ++ " to atom " ++ Decimal.natural (h.server.atomOf key))
  have changed : ((h.server.lookup key).2.change (h.server.atomOf key) payload).2.payloads =
      h.server.payloads ++ [payload] := by
    rw [Server.payloads_change, Server.payloads_lookup]
  have synced : ((h.server.lookup key).2.change (h.server.atomOf key) payload).2.sync.2.payloads =
      h.server.payloads ++ [payload] := by
    rw [Server.payloads_sync, changed]
  have syncs : ((h.server.lookup key).2.change (h.server.atomOf key) payload).2.syncFault =
      h.server.syncFault := Server.syncFault_change ..
  have changes : (h.server.lookup key).2.changeFault = h.server.changeFault := rfl
  rw [ends_onServer, ends_orFail, Server.change_fst, changes]
  cases changeFault : h.server.changeFault with
  | some e =>
      refine ⟨lines, [payload], quiet, .failed fun takes => ?_, ?_⟩
      · cases changeFault.symm.trans takes.changes
      · exact ⟨(List.append_nil _).symm, noted, changed⟩
  | none =>
      dsimp only
      rw [ends_onServer, ends_orFail, Server.sync_fst, syncs]
      cases syncFault : h.server.syncFault with
      | some e =>
          refine ⟨lines, [payload], quiet, .failed fun takes => ?_, ?_⟩
          · cases syncFault.symm.trans takes.syncs
          · exact ⟨(List.append_nil _).symm, noted, synced⟩
      | none =>
          dsimp only
          rw [Run.ends_log, noted]
          obtain ⟨more, quietMore, notedMore⟩ := (h.console.plus lines).note_plus
            "vncpasswd.session" ("Published " ++ Decimal.natural payload.length ++
              " byte(s) under " ++ key)
          refine ⟨lines ++ more, [payload], quiet.append quietMore,
            .taken ⟨found, changeFault, syncFault⟩, ?_⟩
          exact ⟨(List.append_nil _).symm, notedMore.trans (Console.plus_plus ..), synced⟩

end Display.Session

/-! ## The way of a call -/

namespace OneTime

/-- What is said of a source that can be guessed. -/
def predictability (p : Random.Provider) : Notice :=
  .warning ("using " ++ p.name ++ " randomness, one-time passwords may be predictable")

/-- The lines before the first password, among them the warning where one is due. -/
structure Preface (c : Console) (p : Random.Provider) (lines : List Line) : Prop where
  quiet : Quiet lines
  warned : p.strong = false → c.line (predictability p) ∈ lines

/-- The ways a call can go: the numbers it draws, the lines it writes and the payloads it sends. -/
inductive Course (h : Host) (display : Option Text) (p : Random.Provider) (wantView : Bool) :
    Bool → Bool → List (Option Int) → List Line → List Bytes → Prop where
  | turnedAway {revoke : Bool} {lines : List Line} :
      ¬ h.server.Admits oneTimeKey → Quiet lines →
      Course h display p wantView revoke false [] lines []
  | revoked {done : Bool} {lines : List Line} {sent : List Bytes} :
      h.server.Admits oneTimeKey → Quiet lines →
      (h.server.admitted display oneTimeKey).Delivery oneTimeKey [] done sent →
      Course h display p wantView true done [] lines sent
  | undrawn {before : List Line} :
      h.server.Admits oneTimeKey → Preface h.console p before →
      none ∈ p.numbers h.entropy (count wantView) →
      Course h display p wantView false false (p.numbers h.entropy (count wantView))
        (before ++ passwordLines h.console
          (p.numbers h.entropy (count wantView)).reduceOption) []
  | issued {done : Bool} {values : List Int} {before after : List Line} {sent : List Bytes} :
      h.server.Admits oneTimeKey → Preface h.console p before → Quiet after →
      values.length = count wantView →
      p.numbers h.entropy (count wantView) = values.map some →
      (h.server.admitted display oneTimeKey).Delivery oneTimeKey (values.flatMap slot) done sent →
      Course h display p wantView false done (values.map some)
        (before ++ passwordLines h.console values ++ after) sent

variable {h h₁ : Host} {display : Option Text} {p : Random.Provider} {wantView revoke done : Bool}
  {before : List Line}

/-- Between the hosts lies a call. -/
def Publishes (h : Host) (display : Option Text) (p : Random.Provider) (wantView revoke : Bool)
    (done : Bool) (h' : Host) : Prop :=
  ∃ drawn lines sent, h.Progress h' drawn lines sent ∧
    Course h display p wantView revoke done drawn lines sent

theorem Publishes.close (published : Publishes h display p wantView revoke done h₁) :
    Publishes h display p wantView revoke done { h₁ with server := h₁.server.close } := by
  obtain ⟨drawn, lines, sent, progress, course⟩ := published
  exact ⟨drawn, lines, sent,
    { progress with sent := (Server.payloads_close _).trans progress.sent }, course⟩

/-- A host on which the server let the client in and knew the key, and nothing was drawn yet. -/
structure Admitted (h : Host) (display : Option Text) (before : List Line) (h₁ : Host) : Prop where
  admits : h.server.Admits oneTimeKey
  quiet : Quiet before
  console : h₁.console = h.console.plus before
  entropy : h₁.entropy = h.entropy
  server : h₁.server = h.server.admitted display oneTimeKey

namespace Admitted

theorem progress (admitted : Admitted h display before h₁) : h.Progress h₁ [] before [] where
  drawn := by rw [admitted.entropy, List.append_nil]
  console := admitted.console
  sent := by rw [admitted.server, Server.payloads_admitted, List.append_nil]

theorem plus (admitted : Admitted h display before h₁) {lines : List Line} (quiet : Quiet lines) :
    Admitted h display (before ++ lines) { h₁ with console := h₁.console.plus lines } :=
  { admitted with
    quiet := admitted.quiet.append quiet
    console := by rw [admitted.console, Console.plus_plus] }

end Admitted

theorem ends_revoke {s : Session} (admitted : Admitted h display before h₁) :
    Ends (do
        s.setProperty oneTimeKey []
        Run.log "vncpasswd.otp" ("Revoked one-time passwords on " ++ s.display)) h₁
      (fun _ h' => Publishes h display p wantView true true h')
      (fun _ h' => Publishes h display p wantView true false h') := by
  rw [ends_bind]
  refine Session.ends_setProperty_delivered.imp ?_ ?_ <;>
    rintro _ h₂ ⟨lines, sent, quiet, delivery, progress⟩ <;>
    rw [admitted.server] at delivery
  · obtain ⟨more, quietMore, noted⟩ := h₂.console.note_plus "vncpasswd.otp"
      ("Revoked one-time passwords on " ++ s.display)
    have closing : h₂.Progress { h₂ with console := h₂.console.plus more } [] more [] :=
      ⟨(List.append_nil _).symm, rfl, (List.append_nil _).symm⟩
    rw [Run.ends_log, noted]
    have whole := (admitted.progress.trans progress).trans closing
    simp only [List.append_nil] at whole
    exact ⟨_, _, _, whole, .revoked admitted.admits
      ((admitted.quiet.append quiet).append quietMore) delivery⟩
  · exact ⟨_, _, _, admitted.progress.trans progress,
      .revoked admitted.admits (admitted.quiet.append quiet) delivery⟩

theorem ends_issueAndSend {s : Session} (admitted : Admitted h display before h₁)
    (preface : Preface h.console p before) :
    Ends (issueAll p wantView >>= s.setProperty oneTimeKey) h₁
      (fun _ h' => Publishes h display p wantView false true h')
      (fun _ h' => Publishes h display p wantView false false h') := by
  have console (values : List Int) :
      passwordLines h₁.console values = passwordLines h.console values := by
    rw [admitted.console, passwordLines_plus]
  rw [ends_bind]
  refine ends_issueAll.imp ?_ ?_
  · rintro _ h₂ ⟨server, values, length, numbers, rfl, issued⟩
    rw [admitted.entropy] at numbers
    rw [console] at issued
    have sends {done : Bool} {h₃ : Host}
        (delivered : h₂.Delivered oneTimeKey (values.flatMap slot) done h₃) :
        Publishes h display p wantView false done h₃ := by
      obtain ⟨after, sent, quiet, delivery, progress⟩ := delivered
      rw [server, admitted.server] at delivery
      have whole := (admitted.progress.trans issued).trans progress
      rw [List.append_nil] at whole
      exact ⟨_, _, _, whole,
        .issued admitted.admits preface quiet length numbers delivery⟩
    exact Session.ends_setProperty_delivered.imp (fun _ _ => sends) fun _ _ => sends
  · rintro _ h₂ ⟨-, failed, progress⟩
    rw [admitted.entropy, console] at progress
    rw [admitted.entropy] at failed
    exact ⟨_, _, _, admitted.progress.trans progress, .undrawn admitted.admits preface failed⟩

/-- The source is named, and a source that can be guessed is warned of, before the first draw. -/
theorem ends_announceAndSend {s : Session} (admitted : Admitted h display before h₁) :
    Ends (do
        Run.say (.verbose ("Using " ++ p.name ++ " randomness"))
        if !p.strong then Run.say (predictability p)
        let payload ← issueAll p wantView
        s.setProperty oneTimeKey payload) h₁
      (fun _ h' => Publishes h display p wantView false true h')
      (fun _ h' => Publishes h display p wantView false false h') := by
  obtain ⟨named, quiet, heard⟩ :=
    h₁.console.hear_plus (n := .verbose ("Using " ++ p.name ++ " randomness")) nofun
  have warned : (h₁.console.plus named).hear (predictability p) =
      (h₁.console.plus named).plus [h.console.line (predictability p)] := by
    rw [admitted.console]
    rfl
  replace admitted := admitted.plus quiet
  rw [ends_bind, Run.ends_say, heard]
  dsimp only
  split
  · rw [ends_bind, Run.ends_say, warned]
    have warning : Quiet [h.console.line (predictability p)] := List.forall_mem_singleton.mpr rfl
    have more := admitted.plus warning
    exact ends_issueAndSend more ⟨more.quiet, fun _ => List.mem_append_right _ (by simp)⟩
  · next strong =>
      have strong : p.strong = true := by simpa using strong
      exact ends_issueAndSend admitted
        ⟨admitted.quiet, fun weak => by cases weak.symm.trans strong⟩

/-- The key is looked up once the connection has been reported. -/
theorem ends_require_admitted {s : Session} {greeting : List Line} (quiet : Quiet greeting)
    (accepted : h.server.refusal = none) :
    Ends (s.require oneTimeKey)
      { h with
        console := h.console.plus greeting
        server := h.server.record (.opened display) }
      (fun _ h₁ => ∃ lines, Admitted h display lines h₁)
      (fun _ h₁ => ∃ lines, Quiet lines ∧ ¬ h.server.Admits oneTimeKey ∧
        h.Progress h₁ [] lines []) := by
  have opened : (h.server.record (.opened display)).atomOf oneTimeKey =
      h.server.atomOf oneTimeKey := rfl
  rw [Session.require, ends_bind, Session.ends_atom_iff, opened]
  split
  · next unknown =>
      refine ⟨greeting, quiet, fun admits => admits.2 unknown, (List.append_nil _).symm, rfl, ?_⟩
      exact (Server.payloads_admitted ..).trans (List.append_nil _).symm
  · next known =>
      obtain ⟨lines, quietLines, noted⟩ := (h.console.plus greeting).note_plus "vncpasswd.session"
        ("Resolved property " ++ oneTimeKey ++ " to atom " ++
          Decimal.natural (h.server.atomOf oneTimeKey))
      dsimp only
      rw [noted, Console.plus_plus, ends_pure]
      exact ⟨greeting ++ lines, ⟨accepted, known⟩, quiet.append quietLines, rfl, rfl, rfl⟩

theorem ends_publish_course {provider : Option Random.Provider} :
    Ends (publish display wantView revoke provider) h
      (fun _ h' =>
        Publishes h display (provider.getD (.best h.entropy)) wantView revoke true h')
      (fun _ h' =>
        Publishes h display (provider.getD (.best h.entropy)) wantView revoke false h') := by
  simp only [publish, Session.during, Session.connect, ends_bind, ends_get, ends_onServer,
    Server.connect]
  cases refusal : h.server.refusal with
  | some r =>
      simp only [ends_bind, Run.ends_log, Run.ends_refuse]
      obtain ⟨lines, quiet, noted⟩ := h.console.note_plus "vncpasswd.session"
        ("Display connection failed: " ++ refusalText display r)
      have opened : (h.server.record (.opened display)).payloads = h.server.payloads ++ [] :=
        Server.payloads_record ..
      refine ⟨[], lines, [], ⟨(List.append_nil _).symm, noted, opened⟩, .turnedAway ?_ quiet⟩
      exact fun admits => by cases refusal.symm.trans admits.1
  | none =>
      simp only [ends_pure, Run.ends_always]
      refine Ends.imp ?_ (fun _ _ => Publishes.close) fun _ _ => Publishes.close
      obtain ⟨greeting, quiet, heard⟩ := h.console.hear_plus
        (n := .verbose ("Connected to display " ++ describe display h.environment))
        fun _ _ other => by cases other
      rw [ends_bind, Run.ends_say, heard, ends_bind]
      refine (ends_require_admitted quiet refusal).imp ?_ ?_
      · rintro _ h₁ ⟨before, admitted⟩
        cases revoke with
        | true => exact ends_revoke admitted
        | false =>
            cases provider with
            | some p => exact ends_announceAndSend admitted
            | none =>
                rw [if_neg Bool.false_ne_true, ends_bind, ends_bestProvider, ← admitted.entropy]
                cases h₁.entropy.fault with
                | some reason =>
                    obtain ⟨more, quiet, noted⟩ := h₁.console.note_plus "vncpasswd.randomness"
                      ("Strong randomness unavailable: " ++ reason)
                    dsimp only
                    rw [noted]
                    exact ends_announceAndSend (admitted.plus quiet)
                | none => exact ends_announceAndSend admitted
      · rintro _ h₁ ⟨lines, quiet, refused, progress⟩
        exact ⟨[], lines, [], progress, .turnedAway refused quiet⟩

/-! ## What the operator reads and the server receives -/

/-- The passwords that were issued: on the console, and as the payload that the server received. -/
structure Issued (c : Console) (wantView : Bool) (drawn : List (Option Int)) (lines : List Line)
    (sent : List Bytes) (values : List Int) (payload : Bytes) : Prop where
  count : values.length = count wantView
  drawn : drawn = values.map some
  shown : lines.filter Line.isSecret = passwordLines c values
  sent : sent = [payload]
  slots : ∀ i (hi : i < values.length),
    (payload.drop (digits * i)).take digits = (format values[i]).toBytes
  size : payload.length = digits * OneTime.count wantView
  ascii : ∀ b ∈ payload, 48 ≤ b.toNat ∧ b.toNat ≤ 57

/-- What a call draws, shows and sends, and when it returns. -/
structure Published (h : Host) (display : Option Text) (p : Random.Provider)
    (wantView revoke returned : Bool) (drawn : List (Option Int)) (lines : List Line)
    (sent : List Bytes) : Prop where
  revoked : revoke = true → drawn = [] ∧ (∀ payload ∈ sent, payload = []) ∧
    (returned = true → sent = [[]])
  issued : revoke = false → returned = true →
    ∃ values payload, Issued h.console wantView drawn lines sent values payload
  draws : revoke = false → h.server.Admits oneTimeKey →
    drawn = p.numbers h.entropy (count wantView)
  shown : lines.filter Line.isSecret = passwordLines h.console drawn.reduceOption
  turnedAway : ¬ h.server.Admits oneTimeKey →
    drawn = [] ∧ lines.filter Line.isSecret = [] ∧ sent = []
  withheld : none ∈ drawn → sent = []
  warned : p.strong = false → ∀ l ∈ lines, l.isSecret = true →
    h.console.line (predictability p) ∈ lines.takeWhile fun l => !l.isSecret
  returns : returned = true ↔ h.server.Admits oneTimeKey ∧ none ∉ drawn ∧
    (h.server.admitted display oneTimeKey).Takes oneTimeKey

theorem take_drop_flatMap_slot {values : List Int} {i : Nat} (hi : i < values.length) :
    ((values.flatMap slot).drop (digits * i)).take digits = slot values[i] := by
  induction values generalizing i with
  | nil => cases hi
  | cons value values ih =>
      rw [List.flatMap_cons]
      cases i with
      | zero => rw [Nat.mul_zero, List.drop_zero, List.take_left' (length_slot value)]; rfl
      | succ i =>
          have skipped : digits * (i + 1) = (slot value).length + digits * i := by
            rw [length_slot, Nat.mul_succ, Nat.add_comm]
          rw [skipped, ← List.drop_drop, List.drop_left, ih (Nat.lt_of_succ_lt_succ hi)]
          rfl

theorem length_flatMap_slot (values : List Int) :
    (values.flatMap slot).length = digits * values.length := by
  induction values with
  | nil => rfl
  | cons value values ih =>
      rw [List.flatMap_cons, List.length_append, ih, length_slot, List.length_cons, Nat.mul_succ,
        Nat.add_comm]

theorem issued_of_length {c : Console} {values : List Int} {lines : List Line}
    (length : values.length = count wantView)
    (shown : lines.filter Line.isSecret = passwordLines c values) :
    Issued c wantView (values.map some) lines [values.flatMap slot] values
      (values.flatMap slot) where
  count := length
  drawn := rfl
  shown := shown
  sent := rfl
  slots _ hi := take_drop_flatMap_slot hi
  size := by rw [length_flatMap_slot, length]
  ascii b hb := by
    obtain ⟨value, -, hb⟩ := List.mem_flatMap.mp hb
    exact digit_of_mem_slot hb

theorem filter_passwordLines {c : Console} {values : List Int} {before after : List Line}
    (quiet : Quiet before) (quiet' : Quiet after) :
    (before ++ passwordLines c values ++ after).filter Line.isSecret = passwordLines c values := by
  have all : (passwordLines c values).filter Line.isSecret = passwordLines c values :=
    List.filter_eq_self.mpr fun _ => isSecret_passwordLines
  rw [List.filter_append, List.filter_append, quiet.filter, quiet'.filter, all, List.nil_append,
    List.append_nil]

theorem Preface.mem_takeWhile {c : Console} {rest : List Line} (preface : Preface c p before)
    (weak : p.strong = false) :
    c.line (predictability p) ∈ (before ++ rest).takeWhile fun l => !l.isSecret := by
  have quiet : ∀ l ∈ before, (!l.isSecret) = true := fun l hl => by rw [preface.quiet l hl]; rfl
  rw [List.takeWhile_append_of_pos quiet]
  exact List.mem_append_left _ (preface.warned weak)

theorem Course.published {drawn : List (Option Int)} {lines : List Line} {sent : List Bytes}
    (course : Course h display p wantView revoke done drawn lines sent) :
    Published h display p wantView revoke done drawn lines sent := by
  have silent {c : Console} {lines : List Line} (quiet : Quiet lines) :
      lines.filter Line.isSecret = passwordLines c [] := by
    rw [quiet.filter, passwordLines, List.zipWith_nil_right]
  have nothing {q : Bytes → Prop} : ∀ payload ∈ ([] : List Bytes), q payload :=
    fun _ inside => absurd inside List.not_mem_nil
  cases course with
  | turnedAway refused quiet =>
      exact {
        revoked := fun _ => ⟨rfl, nothing, fun returned => by cases returned⟩
        issued := fun _ returned => by cases returned
        draws := fun _ admits => absurd admits refused
        shown := silent quiet
        turnedAway := fun _ => ⟨rfl, quiet.filter, rfl⟩
        withheld := fun failed => absurd failed List.not_mem_nil
        warned := fun _ l hl secret => by cases (quiet l hl).symm.trans secret
        returns := iff_of_false Bool.false_ne_true fun all => refused all.1 }
  | revoked admits quiet delivery =>
      exact {
        revoked := fun _ => ⟨rfl, delivery.eq_of_mem, by rintro rfl; exact delivery.sent_eq⟩
        issued := fun other => by cases other
        draws := fun other => by cases other
        shown := silent quiet
        turnedAway := fun refused => absurd admits refused
        withheld := fun failed => absurd failed List.not_mem_nil
        warned := fun _ l hl secret => by cases (quiet l hl).symm.trans secret
        returns := delivery.done_iff.trans
          ⟨fun takes => ⟨admits, List.not_mem_nil, takes⟩, fun all => all.2.2⟩ }
  | undrawn admits preface failed =>
      exact {
        revoked := fun other => by cases other
        issued := fun _ returned => by cases returned
        draws := fun _ _ => rfl
        shown := by
          rw [← List.append_nil (_ ++ _)]
          exact filter_passwordLines preface.quiet .nil
        turnedAway := fun refused => absurd admits refused
        withheld := fun _ => rfl
        warned := fun weak _ _ _ => preface.mem_takeWhile weak
        returns := iff_of_false Bool.false_ne_true fun all => all.2.1 failed }
  | @issued _ values before after sent admits preface quiet length numbers delivery =>
      have shown : (before ++ passwordLines h.console values ++ after).filter Line.isSecret =
          passwordLines h.console values := filter_passwordLines preface.quiet quiet
      have drawnAll : none ∉ values.map some := by simp
      have all : (values.map some).reduceOption = values := by simp [List.reduceOption]
      constructor
      case revoked =>
        intro other
        cases other
      case issued =>
        rintro - rfl
        rw [delivery.sent_eq]
        exact ⟨values, values.flatMap slot, issued_of_length length shown⟩
      case draws => exact fun _ _ => numbers.symm
      case shown => rw [shown, all]
      case turnedAway => exact fun refused => absurd admits refused
      case withheld => exact fun failed => absurd failed drawnAll
      case warned =>
        intro weak _ _ _
        rw [List.append_assoc]
        exact preface.mem_takeWhile weak
      case returns =>
        exact delivery.done_iff.trans
          ⟨fun takes => ⟨admits, drawnAll, takes⟩, fun all => all.2.2⟩

/-- Whatever is drawn and whatever the server does, the passwords on the console are those that the
server receives. -/
theorem published_as_shown (h : Host) (display : Option Text) (wantView revoke : Bool)
    (provider : Option Random.Provider) :
    ∃ drawn lines sent,
      h.Progress ((publish display wantView revoke provider).run h).2 drawn lines sent ∧
      Published h display (provider.getD (.best h.entropy)) wantView revoke
        ((publish display wantView revoke provider).run h).1.isOk drawn lines sent := by
  have course : Ends (publish display wantView revoke provider) h _ _ := ends_publish_course
  rcases run : (publish display wantView revoke provider).run h with ⟨_ | _, h'⟩
  · obtain ⟨drawn, lines, sent, progress, course⟩ := course.of_error run
    exact ⟨drawn, lines, sent, progress, course.published⟩
  · obtain ⟨drawn, lines, sent, progress, course⟩ := course.of_ok run
    exact ⟨drawn, lines, sent, progress, course.published⟩

end OneTime
end VncAccess
