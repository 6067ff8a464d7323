import FlagReplica.SharedLock

/-!
# Who gets into the lock, and when

What can happen at a lock for readers and writers: a party comes, one that is inside leaves, or one
that was woken looks whether it may enter. These happen in any order. Newcomers may come between a
wake-up and a look, and of those who were woken anybody may look first. Nothing is asked of who
comes either: a party that is inside or waits already may come once more.

`Guarded` is the invariant: the counts are those of the parties, and whoever sleeps could not enter.
It gives mutual exclusion and that no wake-up is lost. That no reader passes a writer who waits is a
matter of what has happened since, which `Attended` keeps. `Run.orderly` puts them together.
-/

namespace FlagReplica

namespace SharedLock

/-- What happens at a lock. -/
inductive Occurrence where
  /-- A party gets in, when it comes or when it looks again. -/
  | entered (p : Party)
  /-- A party comes and has to wait. -/
  | queued (p : Party)
  /-- A woken party may still not enter and sleeps again. -/
  | slept (p : Party)
  | left (p : Party)
deriving DecidableEq

/-- One occurrence. -/
inductive Step : SharedLock → Occurrence → SharedLock → Prop where
  | enter {l : SharedLock} {p : Party} (may : l.mayEnter p.role = true) :
      Step l (.entered p) (l.arrive p)
  | queue {l : SharedLock} {p : Party} (mayNot : l.mayEnter p.role = false) :
      Step l (.queued p) (l.arrive p)
  | lookIn {l : SharedLock} {p : Party} (woken : ⟨p, true⟩ ∈ l.waiting)
      (may : l.mayEnter p.role = true) : Step l (.entered p) (l.recheck p)
  | lookOn {l : SharedLock} {p : Party} (woken : ⟨p, true⟩ ∈ l.waiting)
      (mayNot : l.mayEnter p.role = false) : Step l (.slept p) (l.recheck p)
  | leave {l : SharedLock} {p : Party} (inside : p ∈ l.inside) : Step l (.left p) (l.leave p)

/-- Occurrences one after another, the latest at the end. -/
inductive Run (l : SharedLock) : List Occurrence → SharedLock → Prop where
  | nil : Run l [] l
  | snoc {past : List Occurrence} {l' l'' : SharedLock} {o : Occurrence}
      (run : Run l past l') (step : Step l' o l'') : Run l (past ++ [o]) l''

/-- How many parties of a role are inside. -/
def insiders (l : SharedLock) (role : Role) : Nat :=
  l.inside.countP fun p => p.role = role

/-- How many parties of a role wait. -/
def waiters (l : SharedLock) (role : Role) : Nat :=
  l.waiting.countP fun w => w.party.role = role

/-- Everybody who was woken has looked. -/
def Quiescent (l : SharedLock) : Prop :=
  ∀ w ∈ l.waiting, w.awake = false

variable {l l' : SharedLock} {p : Party}

/-! ## What each operation does -/

theorem mayEnter_reader_iff :
    l.mayEnter .reader = true ↔ l.writing = false ∧ l.writersWaiting = 0 := by
  simp [mayEnter]

theorem mayEnter_writer_iff : l.mayEnter .writer = true ↔ l.writing = false ∧ l.readers = 0 := by
  simp [mayEnter]

/-- Who may enter finds no writer inside. -/
theorem writing_of_mayEnter {role : Role} (h : l.mayEnter role = true) : l.writing = false := by
  cases role with
  | reader => exact (mayEnter_reader_iff.1 h).1
  | writer => exact (mayEnter_writer_iff.1 h).1

/-- The lock when a woken party has stopped waiting and has not gone in yet. -/
def released (l : SharedLock) (p : Party) : SharedLock :=
  { l with
    writersWaiting := if p.role = .writer then l.writersWaiting - 1 else l.writersWaiting
    waiting := l.waiting.erase ⟨p, true⟩ }

theorem arrive_of_may (h : l.mayEnter p.role = true) : l.arrive p = l.letIn p := by
  simp [arrive, h]

theorem arrive_of_mayNot (h : l.mayEnter p.role = false) :
    l.arrive p =
      { l with
        writersWaiting := if p.role = .writer then l.writersWaiting + 1 else l.writersWaiting
        waiting := l.waiting ++ [⟨p, false⟩] } := by
  simp [arrive, h]

theorem recheck_of_may (hw : ⟨p, true⟩ ∈ l.waiting) (h : l.mayEnter p.role = true) :
    l.recheck p = (l.released p).letIn p := by
  simp [recheck, hw, h, released]

theorem recheck_of_mayNot (hw : ⟨p, true⟩ ∈ l.waiting) (h : l.mayEnter p.role = false) :
    l.recheck p =
      { l with waiting := l.waiting.map fun w => if w = ⟨p, true⟩ then ⟨p, false⟩ else w } := by
  simp [recheck, hw, h]

theorem leave_reader (hp : p.role = .reader) :
    l.leave p =
      if l.readers - 1 = 0 then
        { l with inside := l.inside.erase p, readers := l.readers - 1 }.wakeAll
      else { l with inside := l.inside.erase p, readers := l.readers - 1 } := by
  simp [leave, hp]

theorem leave_writer (hp : p.role = .writer) :
    l.leave p = { l with inside := l.inside.erase p, writing := false }.wakeAll := by
  simp [leave, hp]

@[simp] theorem letIn_waiting (l : SharedLock) (p : Party) :
    (l.letIn p).waiting = l.waiting := by
  unfold letIn
  split <;> rfl

@[simp] theorem letIn_inside (l : SharedLock) (p : Party) :
    (l.letIn p).inside = l.inside ++ [p] := by
  unfold letIn
  split <;> rfl

@[simp] theorem letIn_writersWaiting (l : SharedLock) (p : Party) :
    (l.letIn p).writersWaiting = l.writersWaiting := by
  unfold letIn
  split <;> rfl

@[simp] theorem leave_inside (l : SharedLock) (p : Party) :
    (l.leave p).inside = l.inside.erase p := by
  cases hp : p.role with
  | reader =>
    rw [leave_reader hp]
    split <;> rfl
  | writer =>
    rw [leave_writer hp]
    rfl

/-! ## The counts -/

/-- A count and the count when one has gone. -/
theorem countP_of_mem {α : Type} [DecidableEq α] {a : α} {list : List α} (q : α → Bool)
    (h : a ∈ list) : list.countP q = (list.erase a).countP q + if q a then 1 else 0 := by
  rw [(List.perm_cons_erase h).countP_eq q, List.countP_cons]

/-- The lock decides by the true counts, and a writer inside is alone. -/
structure Counted (l : SharedLock) : Prop where
  readers : l.readers = l.insiders .reader
  writing : l.insiders .writer = if l.writing then 1 else 0
  writersWaiting : l.writersWaiting = l.waiters .writer
  alone : l.writing = true → l.readers = 0

namespace Counted

theorem letIn (h : l.Counted) (may : l.mayEnter p.role = true) : (l.letIn p).Counted := by
  have hfree := writing_of_mayEnter may
  have hreaders := h.readers
  -- whoever may enter, no writer is inside
  have hnobody : l.insiders .writer = 0 := by
    rw [h.writing, hfree]
    rfl
  simp only [insiders] at hreaders hnobody
  cases hp : p.role with
  | reader =>
    have hin : l.letIn p = { l with readers := l.readers + 1, inside := l.inside ++ [p] } := by
      simp [SharedLock.letIn, hp]
    rw [hin]
    refine ⟨?_, ?_, h.writersWaiting, ?_⟩
    · simp [insiders, List.countP_append, hp, hreaders]
    · simp [insiders, List.countP_append, hp, hfree, hnobody]
    · intro hw
      exact absurd hw (by simp [hfree])
  | writer =>
    rw [hp] at may
    -- a writer enters only an empty lock, so that no reader is beside it afterwards
    have hempty : l.readers = 0 := (mayEnter_writer_iff.1 may).2
    have hin : l.letIn p = { l with writing := true, inside := l.inside ++ [p] } := by
      simp [SharedLock.letIn, hp]
    rw [hin]
    refine ⟨?_, ?_, h.writersWaiting, fun _ => hempty⟩
    · simp [insiders, List.countP_append, hp, hreaders]
    · simp [insiders, List.countP_append, hp, hnobody]

theorem queue (h : l.Counted) (mayNot : l.mayEnter p.role = false) : (l.arrive p).Counted := by
  rw [arrive_of_mayNot mayNot]
  refine ⟨h.readers, h.writing, ?_, h.alone⟩
  have hwaiting := h.writersWaiting
  simp only [waiters] at hwaiting
  cases hp : p.role <;> simp [waiters, List.countP_append, hp, hwaiting]

theorem released (h : l.Counted) (hw : ⟨p, true⟩ ∈ l.waiting) : (l.released p).Counted := by
  refine ⟨h.readers, h.writing, ?_, h.alone⟩
  have hwaiting := h.writersWaiting
  rw [waiters, countP_of_mem _ hw] at hwaiting
  cases hp : p.role <;> simp [SharedLock.released, waiters, hp, hwaiting]

theorem sleepOn (h : l.Counted) (hw : ⟨p, true⟩ ∈ l.waiting)
    (mayNot : l.mayEnter p.role = false) : (l.recheck p).Counted := by
  rw [recheck_of_mayNot hw mayNot]
  refine ⟨h.readers, h.writing, ?_, h.alone⟩
  have hsame : ∀ w : Waiter,
      (if w = ⟨p, true⟩ then (⟨p, false⟩ : Waiter) else w).party = w.party := by
    intro w
    split
    · next heq => rw [heq]
    · rfl
  rw [h.writersWaiting]
  simp only [waiters, List.countP_map, Function.comp_def, hsame]

theorem wakeAll (h : l.Counted) : l.wakeAll.Counted := by
  refine ⟨h.readers, h.writing, ?_, h.alone⟩
  rw [SharedLock.wakeAll, h.writersWaiting]
  simp only [waiters, List.countP_map, Function.comp_def]

theorem leave (h : l.Counted) (hp : p ∈ l.inside) : (l.leave p).Counted := by
  have hreaders := h.readers
  have hwriters := h.writing
  rw [insiders, countP_of_mem _ hp] at hreaders hwriters
  cases hrole : p.role with
  | reader =>
    have hleft : Counted { l with inside := l.inside.erase p, readers := l.readers - 1 } := by
      refine ⟨?_, ?_, h.writersWaiting, ?_⟩
      · simp [insiders, hrole, hreaders]
      · simpa [insiders, hrole] using hwriters
      · intro hw
        simp [h.alone hw]
    rw [leave_reader hrole]
    split
    · exact hleft.wakeAll
    · exact hleft
  | writer =>
    -- a writer that is inside is the only one
    have hnone : ((l.inside.erase p).countP fun q => q.role = .writer) = 0 := by
      simp only [hrole, decide_true, if_true] at hwriters
      split at hwriters <;> omega
    have hleft : Counted { l with inside := l.inside.erase p, writing := false } := by
      refine ⟨?_, ?_, h.writersWaiting, fun hw => absurd hw (by simp)⟩
      · simp [insiders, hrole, hreaders]
      · exact hnone
    rw [leave_writer hrole]
    exact hleft.wakeAll

/-- Either no writer is inside, or one writer and no reader. -/
theorem exclusive (h : l.Counted) :
    l.insiders .writer = 0 ∨ l.insiders .writer = 1 ∧ l.insiders .reader = 0 := by
  have hwriting := h.writing
  by_cases hw : l.writing = true
  · right
    rw [if_pos hw] at hwriting
    exact ⟨hwriting, h.readers.symm.trans (h.alone hw)⟩
  · left
    rw [if_neg hw] at hwriting
    exact hwriting

end Counted

/-! ## Those who sleep -/

/-- Whoever sleeps could not enter. -/
def Settled (l : SharedLock) : Prop :=
  ∀ w ∈ l.waiting, w.awake = false → l.mayEnter w.party.role = false

namespace Settled

/-- Nobody may enter beside a writer. Beside a reader no writer may, and a reader who is let in has
found no reader asleep. -/
theorem letIn (may : l.mayEnter p.role = true) (h : p.role = .reader → l.Settled) :
    (l.letIn p).Settled := by
  intro w hw hasleep
  rw [letIn_waiting] at hw
  -- whoever is inside now keeps the sleepers out, except that a reader keeps no reader out: that is
  -- why no reader may enter while one sleeps for a reason
  cases hp : p.role with
  | writer => cases w.party.role <;> simp [SharedLock.letIn, hp, mayEnter]
  | reader =>
    cases hrole : w.party.role with
    | writer => simp [SharedLock.letIn, hp, mayEnter]
    | reader =>
      have hmayNot := h hp w hw hasleep
      rw [hrole, ← hp, may] at hmayNot
      exact absurd hmayNot (by decide)

theorem queue (h : l.Settled) (mayNot : l.mayEnter p.role = false) : (l.arrive p).Settled := by
  -- one writer more that waits lets nobody in
  have hstill : ∀ role, l.mayEnter role = false → (l.arrive p).mayEnter role = false := by
    intro role hrole
    rw [arrive_of_mayNot mayNot]
    cases role with
    | writer => exact hrole
    | reader =>
      rw [← Bool.not_eq_true, mayEnter_reader_iff] at hrole ⊢
      intro ⟨hwriting, hnone⟩
      refine hrole ⟨hwriting, ?_⟩
      dsimp only at hnone
      split at hnone <;> omega
  intro w hw hasleep
  rw [arrive_of_mayNot mayNot] at hw
  rcases List.mem_append.1 hw with hw | hw
  · exact hstill _ (h w hw hasleep)
  · rcases List.mem_singleton.1 hw with rfl
    exact hstill _ mayNot

/-- A reader that stops waiting changes nothing for anybody else. -/
theorem released (h : l.Settled) (hp : p.role = .reader) : (l.released p).Settled := by
  intro w hw hasleep
  have hsame : (l.released p).mayEnter w.party.role = l.mayEnter w.party.role := by
    cases w.party.role <;> simp [SharedLock.released, mayEnter, hp]
  rw [hsame]
  exact h w (List.mem_of_mem_erase hw) hasleep

theorem sleepOn (h : l.Settled) (hw : ⟨p, true⟩ ∈ l.waiting)
    (mayNot : l.mayEnter p.role = false) : (l.recheck p).Settled := by
  rw [recheck_of_mayNot hw mayNot]
  intro w hw' hasleep
  obtain ⟨v, hv, rfl⟩ := List.mem_map.1 hw'
  by_cases heq : v = ⟨p, true⟩
  · simp only [heq, if_true]
    exact mayNot
  · simp only [heq, if_false] at hasleep ⊢
    exact h v hv hasleep

theorem wakeAll (l : SharedLock) : l.wakeAll.Settled := by
  intro w hw hasleep
  obtain ⟨v, -, rfl⟩ := List.mem_map.1 hw
  exact absurd hasleep (by simp)

/-- As long as a reader is left inside no writer may enter, and readers wait for writers only. -/
theorem leave (h : l.Settled) : (l.leave p).Settled := by
  cases hp : p.role with
  | writer =>
    -- a writer that leaves wakes everybody, so that nobody is left asleep
    rw [leave_writer hp]
    exact wakeAll _
  | reader =>
    rw [leave_reader hp]
    split
    · exact wakeAll _
    · next hleft =>
      -- others go on reading: writers have to wait for them, and readers wait for what they waited
      -- for
      intro w hw hasleep
      cases hrole : w.party.role with
      | writer => simp [mayEnter, hleft]
      | reader =>
        have hmayNot := h w hw hasleep
        rw [hrole] at hmayNot
        exact hmayNot

end Settled

/-! ## Every run -/

/-- The counts are right, and whoever sleeps could not enter. -/
structure Guarded (l : SharedLock) : Prop where
  counted : l.Counted
  settled : l.Settled

theorem Guarded.step {o : Occurrence} (h : l.Guarded) (hs : Step l o l') : l'.Guarded := by
  cases hs with
  | enter may =>
    -- a newcomer may get in before those who were woken
    rw [arrive_of_may may]
    exact ⟨h.counted.letIn may, .letIn may fun _ => h.settled⟩
  | queue mayNot => exact ⟨h.counted.queue mayNot, h.settled.queue mayNot⟩
  | @lookIn p woken may =>
    -- a writer does not count itself as waiting, a reader waits for no reader
    have hmay : (l.released p).mayEnter p.role = true := by
      cases hp : p.role <;> simpa [released, mayEnter, hp] using may
    rw [recheck_of_may woken may]
    exact ⟨(h.counted.released woken).letIn hmay, .letIn hmay h.settled.released⟩
  | lookOn woken mayNot =>
    exact ⟨h.counted.sleepOn woken mayNot, h.settled.sleepOn woken mayNot⟩
  | leave inside => exact ⟨h.counted.leave inside, h.settled.leave⟩

theorem Guarded.run {past : List Occurrence} (h : l.Guarded) (hrun : Run l past l') :
    l'.Guarded := by
  induction hrun with
  | nil => exact h
  | snoc _ step ih => exact ih.step step

/-- Nobody has come to a new lock. -/
theorem guarded_new : Guarded {} := by
  refine ⟨⟨rfl, rfl, rfl, fun _ => rfl⟩, ?_⟩
  intro w hw
  exact absurd hw List.not_mem_nil

/-- Where everybody who was woken has looked, nobody waits who could enter. -/
theorem Guarded.rests (h : l.Guarded) (hq : l.Quiescent) :
    ∀ w ∈ l.waiting, l.mayEnter w.party.role = false := by
  intro w hw
  exact h.settled w hw (hq w hw)

/-- Nobody is left waiting at an empty lock. A writer could enter; so none waits, and then a reader
could. -/
theorem Guarded.waiting_of_empty (h : l.Guarded) (hq : l.Quiescent) (hempty : l.inside = []) :
    l.waiting = [] := by
  have hreaders : l.readers = 0 := by
    rw [h.counted.readers, insiders, hempty]
    rfl
  have hwriting : l.writing = false := by
    have := h.counted.writing
    rw [insiders, hempty] at this
    cases hw : l.writing with
    | false => rfl
    | true => simp [hw] at this
  -- no writer waits at an empty lock, since it could enter, and so no reader waits for one
  have hno : ∀ w ∈ l.waiting, w.party.role ≠ .writer := by
    intro w hw hrole
    have hmayNot := h.rests hq w hw
    rw [hrole, mayEnter_writer_iff.2 ⟨hwriting, hreaders⟩] at hmayNot
    exact absurd hmayNot (by decide)
  have hnone : l.writersWaiting = 0 := by
    rw [h.counted.writersWaiting, waiters, List.countP_eq_zero]
    intro w hw
    simpa using hno w hw
  rw [List.eq_nil_iff_forall_not_mem]
  intro w hw
  have hmayNot := h.rests hq w hw
  cases hrole : w.party.role with
  | writer => exact hno w hw hrole
  | reader =>
    rw [hrole, mayEnter_reader_iff.2 ⟨hwriting, hnone⟩] at hmayNot
    exact absurd hmayNot (by decide)

/-! ## Looking in the order of arrival -/

/-- How often a party waits awake. -/
def alert (l : SharedLock) (p : Party) : Nat :=
  l.waiting.count ⟨p, true⟩

/-- A look takes care of one who was woken, and wakes nobody. -/
theorem alert_recheck_le (l : SharedLock) (p q : Party) :
    (l.recheck p).alert q ≤ l.alert q - if q = p then 1 else 0 := by
  by_cases hw : ⟨p, true⟩ ∈ l.waiting
  · cases may : l.mayEnter p.role with
    | true =>
      rw [recheck_of_may hw may]
      simp only [alert, letIn_waiting, released, List.count_erase]
      by_cases hq : q = p
      · simp [hq]
      · have hne : ¬ p = q := fun heq => hq heq.symm
        simp [hq, hne]
    | false =>
      rw [recheck_of_mayNot hw may]
      simp only [alert, List.count_eq_countP, List.countP_map]
      by_cases hq : q = p
      · -- whoever looked in vain sleeps
        have hnone : (l.waiting.countP
            ((· == ⟨q, true⟩) ∘ fun w => if w = ⟨p, true⟩ then ⟨p, false⟩ else w)) = 0 := by
          rw [List.countP_eq_zero]
          intro w _
          by_cases heq : w = ⟨p, true⟩ <;> simp [heq, hq]
        omega
      · simp only [hq, if_false, Nat.sub_zero]
        apply List.countP_mono_left
        intro w _ hmatch
        by_cases heq : w = ⟨p, true⟩
        · simp [heq] at hmatch
        · simpa [heq] using hmatch
  · have hsame : l.recheck p = l := by
      simp [recheck, hw]
    rw [hsame]
    by_cases hq : q = p
    · rw [hq, alert, List.count_eq_zero.2 hw]
      exact Nat.zero_le _
    · simp [hq]

/-- A look, if the party was woken. -/
theorem Run.look {past : List Occurrence} (h : Run l past l') (p : Party) :
    ∃ past', Run l past' (l'.recheck p) := by
  by_cases hw : ⟨p, true⟩ ∈ l'.waiting
  · cases may : l'.mayEnter p.role with
    | true => exact ⟨_, h.snoc (.lookIn hw may)⟩
    | false => exact ⟨_, h.snoc (.lookOn hw may)⟩
  · refine ⟨past, ?_⟩
    have hsame : l'.recheck p = l' := by
      simp [recheck, hw]
    rw [hsame]
    exact h

/-- Once everybody who was woken has had a look, nobody is awake. -/
theorem Run.lookAll {past : List Occurrence} (h : Run l past l') (parties : List Party)
    (hall : ∀ q, l'.alert q ≤ parties.count q) :
    ∃ past', Run l past' (parties.foldl recheck l') ∧
      ∀ q, (parties.foldl recheck l').alert q = 0 := by
  -- by induction on those who are still to look; the bound says that each of them looks at least as
  -- often as it is awake
  induction parties generalizing l' past with
  | nil => exact ⟨past, h, fun q => Nat.le_zero.1 (hall q)⟩
  | cons p parties ih =>
    obtain ⟨past', h'⟩ := h.look p
    apply ih h'
    intro q
    have hlook := alert_recheck_le l' p q
    have hq := hall q
    rw [List.count_cons] at hq
    -- the look of `p` uses up one of its own turns and nobody else's
    by_cases heq : q = p
    · simp only [heq, beq_self_eq_true, if_true] at hlook hq ⊢
      omega
    · have hne : ¬ p = q := fun hpq => heq hpq.symm
      simp only [heq, if_false] at hlook
      simp only [beq_iff_eq, hne, if_false] at hq
      omega

/-- Letting everybody look who was woken, in the order of arrival, is a run to a lock where nobody
is awake. -/
theorem settle_rests (l : SharedLock) : (∃ looks, Run l looks l.settle) ∧ l.settle.Quiescent := by
  have hsettle : l.settle = ((l.waiting.filter (·.awake)).map (·.party)).foldl recheck l := by
    rw [settle, List.foldl_map]
  -- `settle` has everybody look who is awake, in the order of arrival
  have hall : ∀ q, l.alert q ≤ ((l.waiting.filter (·.awake)).map (·.party)).count q := by
    intro q
    simp only [alert, List.count_eq_countP, List.countP_map, List.countP_filter]
    apply List.countP_mono_left
    intro w _ hw
    rw [beq_iff_eq] at hw
    simp [hw]
  obtain ⟨looks, hrun, hnone⟩ := Run.nil.lookAll _ hall
  rw [hsettle]
  refine ⟨⟨looks, hrun⟩, ?_⟩
  intro w hw
  have hcount := hnone w.party
  rw [alert, List.count_eq_zero] at hcount
  rw [← Bool.not_eq_true]
  intro hawake
  apply hcount
  rw [← hawake]
  exact hw

/-! ## Readers and the writers before them -/

/-- The parties that wait, in the order of arrival. -/
def queue (l : SharedLock) : List Party :=
  l.waiting.map (·.party)

@[simp] theorem queue_letIn (l : SharedLock) (p : Party) : (l.letIn p).queue = l.queue := by
  simp [queue]

theorem queue_leave (l : SharedLock) (p : Party) : (l.leave p).queue = l.queue := by
  have hwoken : ∀ l : SharedLock, l.wakeAll.queue = l.queue := by
    intro l
    simp [queue, wakeAll, Function.comp_def]
  cases hp : p.role with
  | writer =>
    rw [leave_writer hp, hwoken]
    rfl
  | reader =>
    rw [leave_reader hp]
    split
    · rw [hwoken]
      rfl
    · rfl

theorem queue_sleepOn (hw : ⟨p, true⟩ ∈ l.waiting) (mayNot : l.mayEnter p.role = false) :
    (l.recheck p).queue = l.queue := by
  rw [recheck_of_mayNot hw mayNot]
  simp only [queue, List.map_map]
  apply List.map_congr_left
  intro w _
  by_cases heq : w = ⟨p, true⟩ <;> simp [heq]

/-- Whoever waited besides the party that stops waiting still does. -/
theorem mem_queue_released {q : Party} (hq : q ∈ l.queue) : q ∈ (l.released p).queue ∨ q = p := by
  obtain ⟨w, hw, rfl⟩ := List.mem_map.1 hq
  by_cases heq : w = ⟨p, true⟩
  · right
    rw [heq]
  · left
    exact List.mem_map_of_mem ((List.mem_erase_of_ne heq).2 hw)

/-- A party that waited still waits, or has got in and is inside, or has got in and left. -/
def Attended (l : SharedLock) (since : List Occurrence) (p : Party) : Prop :=
  p ∈ l.queue ∨ (p ∈ l.inside ∧ .entered p ∈ since) ∨ [.entered p, .left p].Sublist since

theorem Attended.step {since : List Occurrence} {o : Occurrence} {w : Party}
    (h : l.Attended since w) (hs : Step l o l') : l'.Attended (since ++ [o]) w := by
  have hlonger : since.Sublist (since ++ [o]) := List.sublist_append_left _ _
  rcases h with hwaits | ⟨hinside, hentered⟩ | hleft
  · cases hs with
    | enter may =>
      rw [arrive_of_may may]
      exact Or.inl (by simpa using hwaits)
    | queue mayNot =>
      rw [arrive_of_mayNot mayNot]
      left
      simp only [SharedLock.queue, List.map_append, List.mem_append] at hwaits ⊢
      exact Or.inl hwaits
    | @lookIn p woken may =>
      rw [recheck_of_may woken may]
      rcases mem_queue_released (p := p) hwaits with hstill | rfl
      · exact Or.inl (by simpa using hstill)
      · right; left
        simp
    | lookOn woken mayNot =>
      left
      rw [queue_sleepOn woken mayNot]
      exact hwaits
    | leave _ =>
      left
      rw [queue_leave]
      exact hwaits
  · have hentered' : .entered w ∈ since ++ [o] := hlonger.subset hentered
    cases hs with
    | enter may =>
      rw [arrive_of_may may]
      exact Or.inr (Or.inl ⟨by simp [hinside], hentered'⟩)
    | queue mayNot =>
      rw [arrive_of_mayNot mayNot]
      exact Or.inr (Or.inl ⟨hinside, hentered'⟩)
    | lookIn woken may =>
      rw [recheck_of_may woken may]
      exact Or.inr (Or.inl ⟨by simp [released, hinside], hentered'⟩)
    | lookOn woken mayNot =>
      rw [recheck_of_mayNot woken mayNot]
      exact Or.inr (Or.inl ⟨hinside, hentered'⟩)
    | @leave p _ =>
      right
      by_cases hp : p = w
      · -- the party that got in leaves
        right
        rw [hp]
        exact (List.singleton_sublist.2 hentered).append (.refl [Occurrence.left w])
      · left
        rw [leave_inside]
        exact ⟨(List.mem_erase_of_ne (Ne.symm hp)).2 hinside, hentered'⟩
  · exact Or.inr (Or.inr (hleft.trans hlonger))

theorem Attended.run {later : List Occurrence} {w : Party} (hw : w ∈ l.queue)
    (h : Run l later l') : l'.Attended later w := by
  induction h with
  | nil => exact Or.inl hw
  | snoc _ step ih => exact ih.step step

/-- Where a reader gets in no writer waits or is inside. -/
theorem Guarded.no_writer {l'' : SharedLock} {r : Party} (h : l.Guarded)
    (hs : Step l (.entered r) l'') (hr : r.role = .reader) :
    (∀ p ∈ l.queue, p.role ≠ .writer) ∧ ∀ p ∈ l.inside, p.role ≠ .writer := by
  have hmay : l.mayEnter .reader = true := by
    cases hs with
    | enter may => exact hr ▸ may
    | lookIn _ may => exact hr ▸ may
  -- a reader may enter only if the counts of writers are zero, and the counts are right
  obtain ⟨hwriting, hnone⟩ := mayEnter_reader_iff.1 hmay
  have hinside : l.insiders .writer = 0 := by
    rw [h.counted.writing, hwriting]
    rfl
  rw [h.counted.writersWaiting, waiters, List.countP_eq_zero] at hnone
  rw [insiders, List.countP_eq_zero] at hinside
  constructor
  · intro p hp
    obtain ⟨w, hw, rfl⟩ := List.mem_map.1 hp
    simpa using hnone w hw
  · intro p hp
    simpa using hinside p hp

/-- Before a reader gets in, every writer that was waiting has got in and left. -/
theorem Guarded.passed {later : List Occurrence} {l'' : SharedLock} {w r : Party} (h : l.Guarded)
    (hw : w ∈ l.queue) (hwriter : w.role = .writer) (hrun : Run l later l')
    (hs : Step l' (.entered r) l'') (hr : r.role = .reader) :
    [.entered w, .left w].Sublist later := by
  obtain ⟨hqueue, hinside⟩ := (h.run hrun).no_writer hs hr
  rcases Attended.run hw hrun with hwaits | ⟨hin, -⟩ | hleft
  · exact absurd hwriter (hqueue w hwaits)
  · exact absurd hwriter (hinside w hin)
  · exact hleft

/-- What holds of a lock after every run from a new one. Either no writer is inside, or one writer
and no reader, and the counts that the lock decides by are those of the parties. Those who were
woken can all have their look, and where they have, nobody waits who could enter, and nobody at all
if the lock is empty. And from here on no reader gets in before every writer that waits now has got
in and left. -/
theorem Run.orderly {past : List Occurrence} (h : Run {} past l) :
    (l.insiders .writer = 0 ∨ l.insiders .writer = 1 ∧ l.insiders .reader = 0) ∧
      (l.readers = l.insiders .reader ∧ (l.insiders .writer = if l.writing then 1 else 0) ∧
        l.writersWaiting = l.waiters .writer) ∧
      ((∃ looks, Run l looks l.settle) ∧ l.settle.Quiescent) ∧
      (l.Quiescent → (∀ w ∈ l.waiting, l.mayEnter w.party.role = false) ∧
        (l.inside = [] → l.waiting = [])) ∧
      ∀ later l' l'' w r, w ∈ l.queue → w.role = .writer → Run l later l' →
        Step l' (.entered r) l'' → r.role = .reader → [.entered w, .left w].Sublist later := by
  have hguarded : l.Guarded := guarded_new.run h
  refine ⟨hguarded.counted.exclusive, ⟨hguarded.counted.readers, hguarded.counted.writing,
    hguarded.counted.writersWaiting⟩, l.settle_rests, ?_, ?_⟩
  · intro hquiescent
    exact ⟨hguarded.rests hquiescent, hguarded.waiting_of_empty hquiescent⟩
  · intro later l' l'' w r hw hwriter hlater hs hr
    exact hguarded.passed hw hwriter hlater hs hr

/-- A reader is inside when a writer comes and after it another reader. Once the first has left, the
second is quicker to look than the writer; and yet it gets in only when the writer has come and
gone. -/
theorem Run.orderly_of_quick_reader :
    ∃ w r past l later l' l'', Run {} past l ∧ w ∈ l.queue ∧ w.role = .writer ∧
      Run l later l' ∧ Step l' (.entered r) l'' ∧ r.role = .reader ∧
      later.take 3 = [.queued r, .left ⟨"first", .reader⟩, .slept r] ∧
      [.entered w, .left w].Sublist later := by
  let first : Party := ⟨"first", .reader⟩
  let writer : Party := ⟨"writer", .writer⟩
  let second : Party := ⟨"second", .reader⟩
  let busy := (({} : SharedLock).arrive first).arrive writer
  let woken := (busy.arrive second).leave first
  let finished := ((woken.recheck second).recheck writer).leave writer
  have hpast : Run {} [.entered first, .queued writer] busy :=
    (Run.nil.snoc (.enter (by decide))).snoc (.queue (by decide))
  -- the second reader is woken by the first while the writer still waits
  have hwoken : Run busy [.queued second, .left first] woken :=
    (Run.nil.snoc (.queue (by decide))).snoc (.leave (by decide))
  have hover : Run busy
      [.queued second, .left first, .slept second, .entered writer, .left writer] finished :=
    ((hwoken.snoc (.lookOn (by decide) (by decide))).snoc
      (.lookIn (by decide) (by decide))).snoc (.leave (by decide))
  have hstep : Step finished (.entered second) (finished.recheck second) :=
    .lookIn (by decide) (by decide)
  have hwaits : writer ∈ busy.queue := by decide
  exact ⟨writer, second, _, busy, _, finished, _, hpast, hwaits, rfl, hover, hstep, rfl, rfl,
    (Run.orderly hpast).2.2.2.2 _ _ _ writer second hwaits rfl hover hstep rfl⟩

end SharedLock

end FlagReplica
