import ColabPlatform.Moderation.Dmca

/-!
# Moderation service: what a DMCA notice can come to

Restored only lawfully, permanent for ever after a suit, never advanced when
defective, and hidden once its time has come.  The last two hold of the runs in
which no suit is marked on a defective notice and every notice that is due at a
tick of the hide task is still received or has been hidden before.
-/

namespace ColabPlatform.Moderation.Dmca

open Foundation Common

/-! ## The schema leaves no defects -/

theorem ok_of_bind {α : Type} {first : Except HttpError Unit} {rest : Except HttpError α} {a : α}
    (h : (do first; rest) = .ok a) : first = .ok () ∧ rest = .ok a := by
  cases first with
  | error refused => cases h
  | ok _ => exact ⟨rfl, h⟩

theorem ne_empty_of_checkLength {field text : String} {least : Nat} {most : Option Nat}
    (positive : 0 < least) (h : checkLength field text least most = .ok ()) : text ≠ "" := by
  rintro rfl
  exact absurd (le_of_checkLength h) (Nat.not_le_of_lt positive)

/-- The branch of `file_dmca_notice` that records a defective notice is never taken. -/
theorem validateDmcaFields_of_validate {body : DmcaNoticeCreate}
    (valid : body.validate = .ok ()) : validateDmcaFields body = [] := by
  unfold DmcaNoticeCreate.validate at valid
  obtain ⟨name, valid⟩ := ok_of_bind valid
  obtain ⟨address, valid⟩ := ok_of_bind valid
  obtain ⟨phone, valid⟩ := ok_of_bind valid
  obtain ⟨email, valid⟩ := ok_of_bind valid
  obtain ⟨agent, valid⟩ := ok_of_bind valid
  obtain ⟨_, valid⟩ := ok_of_bind valid
  obtain ⟨perjury, valid⟩ := ok_of_bind valid
  obtain ⟨signature, valid⟩ := ok_of_bind valid
  obtain ⟨work, url⟩ := ok_of_bind valid
  have filled : ∀ {field text : String} {least : Nat} {most : Option Nat}, 0 < least →
      checkLength field text least most = .ok () → text ≠ "" := ne_empty_of_checkLength
  simp [validateDmcaFields, holds_of_checkThat agent, holds_of_checkThat perjury,
    filled (by omega) work, filled (by omega) url, filled (by omega) name,
    filled (by omega) address, filled (by omega) phone, filled (by omega) email,
    filled (by omega) signature]

/-! ## What is wanted -/

/-- The content of the notice was hidden. -/
def Hidden (s : Registry) (notice : DmcaNotice) : Prop :=
  ∃ action ∈ s.actions, notice.caseId = some action.caseId ∧ action.actionType = .hide

instance (s : Registry) (notice : DmcaNotice) : Decidable (Hidden s notice) :=
  inferInstanceAs (Decidable (∃ action ∈ s.actions, _))

structure DmcaSafe (s : Registry) : Prop where
  restored_lawfully : ∀ restored ∈ s.restorations,
    (∃ counter ∈ s.counters.rows, counter.dmcaId = restored.notice ∧
      counter.receivedAt + days 14 ≤ restored.time) ∧
    ∀ suit ∈ s.suits, suit.notice = restored.notice → restored.time ≤ suit.time
  suit_permanent : ∀ suit ∈ s.suits, ∀ notice ∈ s.notices.rows, notice.id = suit.notice →
    notice.state = .permanent
  only_sound : ∀ notice ∈ s.notices.rows,
    notice.state ∈ [.permanent, .hidden, .restored] → notice.rejectionReason = none
  overdue_hidden : ∀ notice ∈ s.notices.rows, notice.id ∈ s.overdue →
    notice.state ≠ .rejectedDefective → notice.state ≠ .restored → Hidden s notice

/--
A suit is marked on a notice that is not defective, and a notice that is due at
a tick of the hide task is still received or has been hidden before, unless it
is defective or restored.
-/
def InOrder (s : Registry) : Event → Prop
  | .markSuitFiled dmcaId role sender _ =>
      (requireSuperAdmin role sender.id?).isOk = true →
        ∀ notice ∈ s.notices.rows, notice.id = dmcaId → notice.state ≠ .rejectedDefective
  | .enactHide now =>
      ∀ notice ∈ s.notices.rows, notice.due now = true → notice.state ≠ .rejectedDefective →
        notice.state ≠ .restored → notice.state = .received ∨ Hidden s notice
  | .fileNotice _ _ | .fileCounterNotice _ _ | .markDefective _ _ _ _ | .scanWindow _ => True

instance (s : Registry) : DecidablePred (InOrder s) := fun e => by
  cases e <;> unfold InOrder <;> infer_instance

/-! ## The invariant -/

/-- What is kept of each notice. -/
structure Sound (s : Registry) (notice : DmcaNotice) : Prop where
  cased : notice.state = .received → notice.caseId ≠ none
  flawless : notice.state ≠ .rejectedDefective → notice.rejectionReason = none
  unrestored : notice.state ≠ .restored
  suit_permanent : ∀ suit ∈ s.suits, notice.id = suit.notice → notice.state = .permanent
  overdue_hidden : notice.id ∈ s.overdue → notice.state ≠ .rejectedDefective → Hidden s notice

structure Kept (s : Registry) : Prop where
  sound : ∀ notice ∈ s.notices.rows, Sound s notice
  no_restorations : s.restorations = []
  known_suits : ∀ suit ∈ s.suits, suit.notice ∈ s.notices.rows.map (·.id)
  known_overdue : ∀ id ∈ s.overdue, id ∈ s.notices.rows.map (·.id)

theorem Kept.safe {s : Registry} (h : Kept s) : DmcaSafe s where
  restored_lawfully := by simp [h.no_restorations]
  suit_permanent := fun suit marked notice mem => (h.sound notice mem).suit_permanent suit marked
  only_sound := by
    intro notice mem state
    refine (h.sound notice mem).flawless fun rejected => ?_
    simp [rejected] at state
  overdue_hidden := fun notice mem overdue rejected _ =>
    (h.sound notice mem).overdue_hidden overdue rejected

/-! ## The hide task -/

/-- The rows after some of the notices were hidden. -/
def hideAll (now : Int) (ids : List String) (rows : List DmcaNotice) : List DmcaNotice :=
  rows.map fun row => if row.id ∈ ids then row.hide now else row

theorem hideAll_cons (now : Int) (id : String) (ids : List String) (rows : List DmcaNotice) :
    hideAll now ids (hideAll now [id] rows) = hideAll now (id :: ids) rows := by
  simp only [hideAll, List.map_map]
  refine List.map_congr_left fun row _ => ?_
  by_cases first : row.id = id <;> by_cases later : row.id ∈ ids <;>
    simp [first, later, DmcaNotice.hide]

/-- The notices are hidden, and nothing else changes but the cases. -/
structure HidesAll (now : Int) (notices : List DmcaNotice) (s s' : Registry) : Prop where
  rows : s'.notices.rows = hideAll now (notices.map (·.id)) s.notices.rows
  counters : s'.counters = s.counters
  suits : s'.suits = s.suits
  restorations : s'.restorations = s.restorations
  kept : ∀ action ∈ s.actions, action ∈ s'.actions
  acted : ∀ notice ∈ notices, Hidden s' notice

theorem Hidden.mono {s s' : Registry} {notice : DmcaNotice} (h : Hidden s notice)
    (kept : ∀ action ∈ s.actions, action ∈ s'.actions) : Hidden s' notice := by
  obtain ⟨action, mem, acts⟩ := h
  exact ⟨action, kept action mem, acts⟩

theorem hideNotice_hides (now : Int) (s : Registry) {notice : DmcaNotice} {caseId : String}
    (hasCase : notice.caseId = some caseId) :
    ∃ middle, hideNotice now s notice = some middle ∧ HidesAll now [notice] s middle := by
  simp only [hideNotice, hasCase, Option.map_some, Option.some.injEq, exists_eq_left']
  refine ⟨?_, rfl, rfl, rfl, ?_, ?_⟩
  · simp [hideAll]
  · intro action mem
    simp [mem]
  · intro other mem
    rw [List.mem_singleton.1 mem]
    exact ⟨hideAction notice caseId, by simp, hasCase, rfl⟩

theorem hidesAll (now : Int) {notices : List DmcaNotice}
    (cased : ∀ notice ∈ notices, notice.caseId ≠ none) (s : Registry) :
    ∃ s', notices.foldlM (hideNotice now) s = some s' ∧ HidesAll now notices s s' := by
  induction notices generalizing s with
  | nil =>
      refine ⟨s, rfl, ⟨?_, rfl, rfl, rfl, fun _ mem => mem, by simp⟩⟩
      simp [hideAll]
  | cons notice notices ih =>
      obtain ⟨caseId, hasCase⟩ := Option.ne_none_iff_exists'.1 (cased notice (by simp))
      obtain ⟨middle, hides, one⟩ := hideNotice_hides now s hasCase
      obtain ⟨s', rest, others⟩ := ih (fun other mem => cased other (by simp [mem])) middle
      refine ⟨s', by simp [hides, rest], ⟨?_, ?_, ?_, ?_, ?_, ?_⟩⟩
      · rw [others.rows, one.rows, List.map_singleton, hideAll_cons, List.map_cons]
      · rw [others.counters, one.counters]
      · rw [others.suits, one.suits]
      · rw [others.restorations, one.restorations]
      · exact fun action mem => others.kept action (one.kept action mem)
      · intro other mem
        rcases List.mem_cons.1 mem with rfl | later
        · exact (one.acted other (by simp)).mono others.kept
        · exact others.acted other later

/-- A tick hides what is received and due. -/
theorem enactDmcaHide_hides (now : Int) {s : Registry}
    (cased : ∀ notice ∈ s.notices.rows, notice.state = .received → notice.caseId ≠ none) :
    HidesAll now (dueNotices now s) s (enactDmcaHide now s) := by
  have received : ∀ notice ∈ dueNotices now s, notice.caseId ≠ none := by
    intro notice mem
    obtain ⟨stored, selected⟩ := List.mem_filter.1 mem
    have isReceived : notice.state = .received := by
      rw [Bool.and_eq_true] at selected
      exact of_decide_eq_true selected.1
    exact cased notice stored isReceived
  obtain ⟨s', done, all⟩ := hidesAll now received s
  simp only [enactDmcaHide, done, Option.getD_some]
  exact ⟨all.rows, all.counters, all.suits, all.restorations, all.kept, all.acted⟩

theorem mem_hideAll {now : Int} {ids : List String} {rows : List DmcaNotice}
    {notice : DmcaNotice} (h : notice ∈ hideAll now ids rows) :
    (∃ old ∈ rows, old.id ∈ ids ∧ notice = old.hide now) ∨
      notice ∈ rows ∧ notice.id ∉ ids := by
  obtain ⟨old, stored, rfl⟩ := List.mem_map.1 h
  by_cases due : old.id ∈ ids
  · exact Or.inl ⟨old, stored, due, by simp [due]⟩
  · exact Or.inr ⟨by simpa [due] using stored, by simp [due]⟩

/-- The restore task raises at every tick: no content is ever restored by it. -/
theorem scanCounterWindow_eq (now : Int) (s : Registry) : scanCounterWindow now s = s := by
  simp [scanCounterWindow, DmcaNotice.timestamp?]

/-! ## What the steps keep -/

namespace Kept

variable {s : Registry}

theorem initial : Kept .initial where
  sound := by simp [Registry.initial]
  no_restorations := rfl
  known_suits := by simp [Registry.initial]
  known_overdue := by simp [Registry.initial]

/-- A notice is filed. -/
theorem insert (h : Kept s) {notice : DmcaNotice}
    {notices : Table DmcaNotice DmcaNotice.id (noAlt DmcaNotice)}
    (inserted : s.notices.insert? notice = some notices)
    (cased : notice.state = .received → notice.caseId ≠ none)
    (flawless : notice.state ≠ .rejectedDefective → notice.rejectionReason = none)
    (unrestored : notice.state ≠ .restored)
    (cases : Table DmcaCase DmcaCase.id (noAlt DmcaCase)) :
    Kept { s with notices := notices, cases := cases } := by
  obtain ⟨clash, rows⟩ := Table.insert?_eq_some inserted
  have fresh : notice.id ∉ s.notices.rows.map (·.id) := fun mem => clash (Or.inl mem)
  refine ⟨?_, h.no_restorations, ?_, ?_⟩
  · intro other mem
    rcases List.mem_cons.1 (rows ▸ mem) with rfl | stored
    · refine ⟨cased, flawless, unrestored, ?_, ?_⟩
      · intro suit marked same
        exact absurd (same ▸ h.known_suits suit marked) fresh
      · exact fun overdue => absurd (h.known_overdue _ overdue) fresh
    · have kept := h.sound other stored
      exact ⟨kept.cased, kept.flawless, kept.unrestored, kept.suit_permanent, kept.overdue_hidden⟩
  · intro suit marked
    simp [rows, h.known_suits suit marked]
  · intro id overdue
    simp [rows, h.known_overdue id overdue]

/-- The notice with this id is changed, and other things are that no notice's soundness is about. -/
theorem change (h : Kept s) {id : String} {f : DmcaNotice → DmcaNotice}
    (same_id : ∀ row, (f row).id = row.id) {s' : Registry}
    (rows : s'.notices.rows = s.notices.rows.map fun row => if row.id = id then f row else row)
    (actions : s'.actions = s.actions) (overdue : s'.overdue = s.overdue)
    (restorations : s'.restorations = s.restorations)
    (suits : ∀ suit ∈ s'.suits, suit ∈ s.suits ∨ suit.notice = id ∧ id ∈ s.notices.rows.map (·.id))
    (changed : ∀ row ∈ s.notices.rows, row.id = id → Sound s row → Sound s' (f row)) :
    Kept s' := by
  have ids : s'.notices.rows.map (·.id) = s.notices.rows.map (·.id) := by
    rw [rows, List.map_map]
    refine List.map_congr_left fun row _ => ?_
    by_cases same : row.id = id <;> simp [same, same_id]
  refine ⟨?_, restorations.trans h.no_restorations, ?_, ?_⟩
  · intro notice mem
    rcases Table.mem_updated (rows ▸ mem) with ⟨old, stored, same, rfl⟩ | ⟨stored, other⟩
    · exact changed old stored same (h.sound old stored)
    · have kept := h.sound notice stored
      refine ⟨kept.cased, kept.flawless, kept.unrestored, ?_, ?_⟩
      · intro suit marked same
        rcases suits suit marked with before | ⟨new, -⟩
        · exact kept.suit_permanent suit before same
        · exact absurd (same.trans new) other
      · rw [overdue]
        intro due sound
        exact (kept.overdue_hidden due sound).mono (by simp [actions])
  · intro suit marked
    rw [ids]
    rcases suits suit marked with before | ⟨new, known⟩
    · exact h.known_suits suit before
    · exact new ▸ known
  · rw [ids, overdue]
    exact h.known_overdue

theorem fileDmcaNotice (h : Kept s) (settings : ModSettings) (filing : Filing) (now : Int) :
    Kept (fileDmcaNotice settings filing now s).1 := by
  unfold Dmca.fileDmcaNotice
  cases filing.body.validate with
  | error refused => exact h
  | ok _ =>
      cases checkDmcaRateLimit settings filing.counts with
      | error refused => exact h
      | ok _ =>
          cases validateDmcaFields filing.body with
          | cons defect defects =>
              cases inserted : s.notices.insert? (defectiveNotice filing now (defect :: defects)) with
              | none => simpa [inserted] using h
              | some notices =>
                  simpa [inserted] using h.insert inserted (by simp [defectiveNotice])
                    (by simp [defectiveNotice]) (by simp [defectiveNotice]) s.cases
          | nil =>
              cases opened : s.cases.insert? ⟨filing.caseId, .opened, none, none⟩ with
              | none => simpa [opened] using h
              | some cases =>
                  cases inserted : s.notices.insert? (receivedNotice filing now) with
                  | none => simpa [opened, inserted] using h
                  | some notices =>
                      simpa [opened, inserted] using h.insert inserted (by simp [receivedNotice])
                        (by simp [receivedNotice]) (by simp [receivedNotice]) cases

theorem checked_cases {filing : CounterFiling} {notice : DmcaNotice} {sender : String}
    (checked : checkCounterNotice filing s = .ok (notice, sender)) :
    s.notices.lookup filing.dmcaId = some notice ∧
      (notice.state = .hidden ∨ notice.state = .received) := by
  unfold checkCounterNotice at checked
  cases valid : filing.body.validate with
  | error refused => simp [valid] at checked
  | ok _ =>
      cases header : filing.sender with
      | missing => simp [valid, header] at checked
      | malformed text => simp [valid, header] at checked
      | uuid id =>
          cases found : s.notices.lookup filing.dmcaId with
          | none => simp [valid, header, found] at checked
          | some row =>
              simp only [valid, header, found] at checked
              split_ifs at checked with target state
              obtain ⟨rfl, rfl⟩ := Prod.mk.inj (Except.ok.inj checked)
              simpa using state

theorem fileCounterNotice (h : Kept s) (settings : ModSettings) (filing : CounterFiling)
    (now : Int) : Kept (fileCounterNotice settings filing now s).1 := by
  unfold Dmca.fileCounterNotice
  cases checked : checkCounterNotice filing s with
  | error refused => exact h
  | ok found =>
      obtain ⟨notice, sender⟩ := found
      obtain ⟨found, state⟩ := checked_cases checked
      simp only
      split
      · exact h
      · refine h.change (DmcaNotice.id_withState .counterPending) rfl rfl rfl rfl
          (fun suit marked => Or.inl marked) ?_
        intro row stored same kept
        obtain rfl := Table.eq_of_key_eq stored (Table.mem_of_lookup found) same
        refine ⟨by simp [DmcaNotice.withState], ?_, by simp [DmcaNotice.withState], ?_, ?_⟩
        · exact fun _ => kept.flawless (by rcases state with state | state <;> simp [state])
        · intro suit marked same
          have permanent := kept.suit_permanent suit marked same
          rcases state with state | state <;> simp [state] at permanent
        · exact fun overdue _ =>
            kept.overdue_hidden overdue (by rcases state with state | state <;> simp [state])

theorem markDmcaDefective (h : Kept s) (dmcaId reason role : String) (sender : IdField) :
    Kept (markDmcaDefective dmcaId reason role sender s).1 := by
  unfold Dmca.markDmcaDefective
  cases requireModRole role sender.id? with
  | error refused => exact h
  | ok moderator =>
      cases found : s.notices.lookup dmcaId with
      | none => simpa [found] using h
      | some notice =>
          by_cases received : notice.state = .received
          · simp only [received, ne_eq, not_true_eq_false, if_false]
            refine h.change (DmcaNotice.id_defective reason) rfl rfl rfl rfl
              (fun suit marked => Or.inl marked) ?_
            intro row stored same kept
            obtain rfl := Table.eq_of_key_eq stored (Table.mem_of_lookup found)
              (same.trans (Table.key_of_lookup found).symm)
            refine ⟨by simp [DmcaNotice.defective], by simp [DmcaNotice.defective],
              by simp [DmcaNotice.defective], ?_, by simp [DmcaNotice.defective]⟩
            intro suit marked same
            have permanent := kept.suit_permanent suit marked same
            simp [received] at permanent
          · simpa [found, received] using h

theorem markSuitFiled (h : Kept s) {dmcaId role : String} {sender : IdField} {now : Int}
    (inOrder : InOrder s (.markSuitFiled dmcaId role sender now)) :
    Kept (markSuitFiled dmcaId role sender now s).1 := by
  unfold Dmca.markSuitFiled
  cases allowed : requireSuperAdmin role sender.id? with
  | error refused => exact h
  | ok moderator =>
      cases found : s.notices.lookup dmcaId with
      | none => simpa [found] using h
      | some notice =>
          have mem := Table.mem_of_lookup found
          have isNotice := Table.key_of_lookup found
          refine h.change (DmcaNotice.id_withState .permanent) rfl rfl rfl rfl ?_ ?_
          · intro suit marked
            rcases List.mem_cons.1 marked with rfl | before
            · exact Or.inr ⟨rfl, isNotice ▸ List.mem_map_of_mem mem⟩
            · exact Or.inl before
          · intro row stored same kept
            have sound := inOrder (by simp [allowed, Except.isOk, Except.toBool]) row stored same
            refine ⟨by simp [DmcaNotice.withState], fun _ => kept.flawless sound,
              by simp [DmcaNotice.withState], fun _ _ _ => rfl, ?_⟩
            exact fun overdue _ => kept.overdue_hidden overdue sound

theorem enactDmcaHide (h : Kept s) {now : Int} (inOrder : InOrder s (.enactHide now)) :
    Kept (enactDmcaHide now s) := by
  have all := enactDmcaHide_hides now fun notice mem => (h.sound notice mem).cased
  have ids : (Dmca.enactDmcaHide now s).notices.rows.map (·.id) = s.notices.rows.map (·.id) := by
    rw [all.rows, hideAll, List.map_map]
    refine List.map_congr_left fun row _ => ?_
    simp only [Function.comp_apply]
    split <;> rfl
  refine ⟨?_, all.restorations.trans h.no_restorations, ?_, ?_⟩
  · intro notice mem
    rcases mem_hideAll (all.rows ▸ mem) with ⟨old, stored, due, rfl⟩ | ⟨stored, other⟩
    · obtain ⟨found, selected, same⟩ := List.mem_map.1 due
      obtain ⟨mem, isDue⟩ := List.mem_filter.1 selected
      obtain rfl := Table.eq_of_key_eq mem stored same
      have received : found.state = .received := by
        rw [Bool.and_eq_true] at isDue
        exact of_decide_eq_true isDue.1
      have kept := h.sound found stored
      refine ⟨by simp [DmcaNotice.hide], fun _ => kept.flawless (by simp [received]),
        by simp [DmcaNotice.hide], ?_, fun _ _ => all.acted found selected⟩
      intro suit marked same
      have permanent := kept.suit_permanent suit (all.suits ▸ marked) same
      simp [received] at permanent
    · have kept := h.sound notice stored
      refine ⟨kept.cased, kept.flawless, kept.unrestored, ?_, ?_⟩
      · rw [all.suits]
        exact kept.suit_permanent
      · intro overdue sound
        rcases List.mem_append.1 overdue with before | now'
        · exact (kept.overdue_hidden before sound).mono all.kept
        · obtain ⟨found, selected, same⟩ := List.mem_map.1 now'
          obtain ⟨mem, isDue⟩ := List.mem_filter.1 selected
          obtain rfl := Table.eq_of_key_eq mem stored same
          rcases inOrder found stored isDue sound kept.unrestored with received | hidden
          · refine absurd (List.mem_map_of_mem (List.mem_filter.2 ⟨stored, ?_⟩)) other
            simp [received, isDue]
          · exact hidden.mono all.kept
  · rw [ids, all.suits]
    exact h.known_suits
  · rw [ids]
    intro id overdue
    rcases List.mem_append.1 overdue with before | now'
    · exact h.known_overdue id before
    · obtain ⟨found, selected, rfl⟩ := List.mem_map.1 now'
      exact List.mem_map_of_mem (List.mem_of_mem_filter selected)

theorem scanCounterWindow (h : Kept s) (now : Int) : Kept (scanCounterWindow now s) := by
  rw [scanCounterWindow_eq]
  exact h

theorem step (h : Kept s) (settings : ModSettings) (e : Event) (inOrder : InOrder s e) :
    Kept (Dmca.step settings s e) := by
  cases e with
  | fileNotice filing now => exact h.fileDmcaNotice settings filing now
  | fileCounterNotice filing now => exact h.fileCounterNotice settings filing now
  | markDefective dmcaId reason role sender =>
      exact h.markDmcaDefective dmcaId reason role sender
  | markSuitFiled dmcaId role sender now => exact h.markSuitFiled inOrder
  | enactHide now => exact h.enactDmcaHide inOrder
  | scanWindow now => exact h.scanCounterWindow now

end Kept

theorem dmca_safe_in_order (settings : ModSettings) (events : List Event)
    (inOrder : Guarded (step settings) InOrder .initial events) :
    DmcaSafe (runFrom (step settings) .initial events) := by
  have preserved : ∀ s e, InOrder s e → Kept s → Kept (step settings s e) :=
    fun s e ok h => h.step settings e ok
  exact (runFrom_invariant_of_guarded preserved .initial inOrder).safe

/-! ## Samples -/

def sampleFiling : Filing where
  body :=
    { claimantName := "Rita Reis"
      claimantAddress := "12 Long Lane, Leeds"
      claimantPhone := "555 0100"
      claimantEmail := "rita@example.org"
      isAuthorizedAgent := true
      swornStatementText := "I state under penalty of perjury that this notice is accurate."
      signatureFullName := "Rita Reis"
      copyrightedWorkDescription := "A photograph of the harbour"
      copyrightedWorkUrlOrRegistration := none
      targetSubjectId := "eve"
      targetUrlOnColab := "https://colab.example/p/1" }
  counts := some (1, 1)
  noticeId := "notice"
  caseId := "case"

def sampleCounter : CounterFiling where
  dmcaId := "notice"
  body :=
    { counterClaimantLegalName := "Eve Ems"
      counterClaimantAddress := "3 Short Street, York"
      counterClaimantPhone := "555 0199"
      counterStatementText := "I took the photograph myself on the third of May last year."
      consentToJurisdiction := true
      consentToServiceOfProcess := true
      signatureFullName := "Eve Ems"
      counterToken := "0123456789" }
  sender := .uuid "eve"
  counterId := "counter"

theorem dmca_safe_hidden_then_contested :
    DmcaSafe (runFrom (step {}) .initial
      [.fileNotice sampleFiling 0, .enactHide (hours 24), .fileCounterNotice sampleCounter (hours 30),
        .enactHide (hours 36), .markSuitFiled "notice" "super_admin" (.uuid "sue") (hours 40),
        .enactHide (hours 48), .scanWindow (days 30)]) :=
  dmca_safe_in_order {} _ (by decide +kernel)

/-- A counter-notice in the first day keeps the content from ever being hidden, and a
suit makes a defective notice permanent. -/
theorem dmca_unsafe :
    ¬ DmcaSafe (runFrom (step {}) .initial
        [.fileNotice sampleFiling 0, .fileCounterNotice sampleCounter (hours 1),
          .enactHide (hours 25)]) ∧
      ¬ DmcaSafe (runFrom (step {}) .initial
        [.fileNotice sampleFiling 0, .markDefective "notice" "not the owner" "mod" (.uuid "mo"),
          .markSuitFiled "notice" "super_admin" (.uuid "sue") (hours 2)]) := by
  constructor
  · intro safe
    exact absurd safe.overdue_hidden (by decide +kernel)
  · intro safe
    exact absurd safe.only_sound (by decide +kernel)

end ColabPlatform.Moderation.Dmca
