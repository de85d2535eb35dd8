import DartSurvey.Proofs.Scan.Encounter
import DartSurvey.Scan.Inspector

/-!
# The script of a scan

What the pulls on a suspended scan will give is fixed in advance on a disk that stays as it is: a
list of `Turn`s, one for each pull up to the last that does not merely repeat the end.

- `Inspector.script`: the turns of a suspended scan, by recursion on the encounters of its walk
  (`Inspector.turns`).
- One pull plays the first turn and leaves a scan whose script is the rest (`pull_script`).
- So `k` pulls play the first `k` turns, and after them report the end (`pulls_script`).
- Every turn but the last of a script gives an item, and only a scan that is over has an empty
  script (`isCourse_script`); so a scan is over once an answer was no item (`pulls_scan_finished`),
  and then every pull reports the end and does nothing (`pulls_finished`).
-/

namespace DartSurvey.Scan

open Disk (Path)

/-- One pull: the answer, and what happens during it. -/
structure Turn where
  answer : Answer
  events : List Event

/-- The pulls that hand out items, the first after `events`, and what follows them. -/
def deliver (events : List Event) (next : List Turn) : List Item → List Turn
  | [] => [⟨.ended, events⟩]
  | i :: ready => ⟨.item i, events⟩ :: (ready.map fun i => ⟨.item i, []⟩) ++ next

namespace Inspector

variable (ins : Inspector) (disk : Disk)

/-- The pulls on a directory scan that comes upon encounters, where `pending` has happened since the
last pull. -/
def turns (filesOnly : Bool) (root : Path) (pending : List Event) : List Encounter → List Turn
  | [] => [⟨.ended, pending⟩]
  | x :: xs =>
    match (ins.seeking disk filesOnly root).meet pending x with
    | .goOn events => turns filesOnly root events xs
    | .stop events (.error f) => [⟨.failed f, events⟩]
    | .stop events (.ok items) => deliver events (turns filesOnly root [] xs) items

/-- The pulls on a scan up to its last item, its failure or its end. -/
def script : Suspended → List Turn
  | .source text path =>
    let (records, events) := ins.scanSource text path
    deliver events [⟨.ended, []⟩] (records.map Item.record)
  | .file path =>
    match ins.scanFile disk path with
    | (.error f, events) => [⟨.failed f, events⟩]
    | (.ok records, events) => deliver events [⟨.ended, []⟩] (records.map Item.record)
  | .directory root filesOnly =>
    match rootFailure? disk root with
    | some f => [⟨.failed f, []⟩]
    | none =>
      ins.turns disk filesOnly (Path.ofString root) []
        (arrivalAt (Path.ofString root) ins.rules disk [])
  | .underWay ready root filesOnly left =>
    (ready.map fun i => ⟨.item i, []⟩)
      ++ ins.turns disk filesOnly root [] (left.flatMap (Task.encounters root ins.rules disk))
  | .finished => []

/-- What a number of pulls gives: the answers, what happened, and the scan that is left. -/
structure Pulls where
  answers : List Answer
  events : List Event
  scan : Suspended

/-- Asks a scan for items a number of times. -/
def pulls : Nat → Suspended → Pulls
  | 0, scan => ⟨[], [], scan⟩
  | k + 1, scan =>
    let first := ins.pull disk scan
    let rest := pulls k first.scan
    ⟨first.answer :: rest.answers, first.events ++ rest.events, rest.scan⟩

/-- The turn a pull plays. -/
def Pulled.turn (p : Pulled) : Turn := ⟨p.answer, p.events⟩

/-! ## One pull -/

/-- The turns are those of the first stop of the walk in search of an item. -/
theorem turns_eq_feed (filesOnly : Bool) (root : Path) (xs : List Encounter) (pending : List Event) :
    ins.turns disk filesOnly root pending xs =
      match (ins.seeking disk filesOnly root).feed pending xs with
      | (events, none) => [⟨.ended, events⟩]
      | (events, some (.error f, _)) => [⟨.failed f, events⟩]
      | (events, some (.ok items, rest)) => deliver events (ins.turns disk filesOnly root [] rest) items := by
  induction xs generalizing pending with
  | nil => rfl
  | cons x xs ih =>
    simp only [turns, Walk.feed]
    cases (ins.seeking disk filesOnly root).meet pending x with
    | goOn events => exact ih events
    | stop events result => cases result <;> rfl

theorem handOut_script (events : List Event) (root : Path) (filesOnly : Bool) (left : List Task)
    (items : List Item) :
    let pull := handOut events root filesOnly left items
    pull.turn :: ins.script disk pull.scan = deliver events
      (ins.turns disk filesOnly root [] (left.flatMap (Task.encounters root ins.rules disk))) items := by
  cases items <;> rfl

theorem handOut_script_nil (events : List Event) (root : Path) (filesOnly : Bool) (items : List Item) :
    let pull := handOut events root filesOnly [] items
    pull.turn :: ins.script disk pull.scan = deliver events [⟨.ended, []⟩] items := by
  have h := ins.handOut_script disk events root filesOnly [] items
  rwa [List.flatMap_nil, turns] at h

/-- A pull that searches for an item plays the first turn of the encounters it goes through. -/
theorem ofFound_script (root : Path) (filesOnly : Bool)
    {found : Found (List Event) (Except Failure (List Item))} {xs : List Encounter}
    (h : (ins.seeking disk filesOnly root).outcome disk found =
      (ins.seeking disk filesOnly root).feed [] xs) :
    (ofFound root filesOnly found).turn :: ins.script disk (ofFound root filesOnly found).scan
      = ins.turns disk filesOnly root [] xs := by
  rw [turns_eq_feed, ← h]
  cases found with
  | exhausted events => rfl
  | stopped events result left =>
    cases result with
    | error f => rfl
    | ok items => exact ins.handOut_script disk events root filesOnly left items

/-- A pull plays the first turn of the script and leaves the rest; when there is no turn left it
reports the end. -/
theorem pull_script (hd : disk.root.WellFormed) (scan : Suspended) :
    (ins.pull disk scan).turn = (ins.script disk scan).headD ⟨.ended, []⟩ ∧
      ins.script disk (ins.pull disk scan).scan = (ins.script disk scan).tail := by
  suffices h : scan = .finished ∨
      (ins.pull disk scan).turn :: ins.script disk (ins.pull disk scan).scan = ins.script disk scan by
    rcases h with rfl | h
    · exact ⟨rfl, rfl⟩
    · rw [← h]
      exact ⟨rfl, rfl⟩
  cases scan with
  | finished => exact Or.inl rfl
  | source text path =>
    refine Or.inr ?_
    simp only [pull, script]
    exact ins.handOut_script_nil disk ..
  | file path =>
    refine Or.inr ?_
    simp only [pull, script]
    cases ins.scanFile disk path with
    | mk result events =>
      cases result with
      | error f => rfl
      | ok records => exact ins.handOut_script_nil disk ..
  | directory root filesOnly =>
    refine Or.inr ?_
    simp only [pull, script]
    cases rootFailure? disk root with
    | some f => rfl
    | none => exact ins.ofFound_script disk _ _ ((ins.seeking disk filesOnly _).arrive_eq_feed disk hd [] [])
  | underWay ready root filesOnly left =>
    refine Or.inr ?_
    cases ready with
    | nil => exact ins.ofFound_script disk _ _ ((ins.seeking disk filesOnly root).resume_eq_feed disk hd left [])
    | cons i ready => rfl

/-! ## Any number of pulls -/

/-- The turns that `k` pulls play. -/
def played (k : Nat) (scan : Suspended) : List Turn :=
  (ins.script disk scan ++ List.replicate k (Turn.mk .ended [])).take k

theorem take_succ_append_replicate {α : Type} (l : List α) (a : α) (k : Nat) :
    (l ++ List.replicate (k + 1) a).take (k + 1)
      = l.headD a :: (l.tail ++ List.replicate k a).take k := by
  cases l with
  | nil => simp [List.replicate_succ]
  | cons x l => simp [List.replicate_succ', ← List.append_assoc, List.take_append_of_le_length]

/-- A number of pulls plays the script and then repeats the end. -/
theorem pulls_script (hd : disk.root.WellFormed) (k : Nat) (scan : Suspended) :
    (ins.pulls disk k scan).answers = (ins.played disk k scan).map Turn.answer ∧
      (ins.pulls disk k scan).events = (ins.played disk k scan).flatMap Turn.events ∧
      ins.script disk (ins.pulls disk k scan).scan = (ins.script disk scan).drop k := by
  induction k generalizing scan with
  | zero => exact ⟨by simp [played, pulls], by simp [played, pulls], by simp [pulls]⟩
  | succ k ih =>
    obtain ⟨hturn, hrest⟩ := ins.pull_script disk hd scan
    obtain ⟨ha, he, hs⟩ := ih (ins.pull disk scan).scan
    simp only [played, hrest] at ha he
    simp only [pulls, played, take_succ_append_replicate, ← hturn]
    refine ⟨?_, ?_, ?_⟩
    · rw [ha]; rfl
    · rw [he]; rfl
    · rw [hs, hrest, List.drop_tail]

/-! ## The shape of a script -/

/-- A list of turns that gives items up to its last turn, which gives none. -/
def IsCourse (ts : List Turn) : Prop :=
  ∃ items last, ts = items ++ [last] ∧ (∀ t ∈ items, ∃ i, t.answer = .item i) ∧ ∀ i, last.answer ≠ .item i

theorem IsCourse.items_append {ts : List Turn} (h : IsCourse ts) (items : List Item) :
    IsCourse ((items.map fun i => ⟨.item i, []⟩) ++ ts) := by
  obtain ⟨before, last, rfl, hb, hl⟩ := h
  refine ⟨(items.map fun i => ⟨.item i, []⟩) ++ before, last, (List.append_assoc ..).symm, ?_, hl⟩
  intro t ht
  rcases List.mem_append.mp ht with ht | ht
  · obtain ⟨i, _, rfl⟩ := List.mem_map.mp ht
    exact ⟨i, rfl⟩
  · exact hb t ht

theorem isCourse_deliver {next : List Turn} (h : IsCourse next) (events : List Event)
    (items : List Item) :
    IsCourse (deliver events next items) := by
  cases items with
  | nil => exact ⟨[], ⟨.ended, events⟩, rfl, by simp, by simp⟩
  | cons i ready =>
    obtain ⟨before, last, hn, hb, hl⟩ := h.items_append ready
    refine ⟨⟨.item i, events⟩ :: before, last, ?_, ?_, hl⟩
    · rw [deliver, List.cons_append, hn, List.cons_append]
    · intro t ht
      rcases List.mem_cons.mp ht with rfl | ht
      · exact ⟨i, rfl⟩
      · exact hb t ht

theorem isCourse_turns (filesOnly : Bool) (root : Path) (xs : List Encounter) (pending : List Event) :
    IsCourse (ins.turns disk filesOnly root pending xs) := by
  induction xs generalizing pending with
  | nil => exact ⟨[], ⟨.ended, pending⟩, rfl, by simp, by simp⟩
  | cons x xs ih =>
    simp only [turns]
    cases (ins.seeking disk filesOnly root).meet pending x with
    | goOn events => exact ih events
    | stop events result =>
      cases result with
      | error f => exact ⟨[], ⟨.failed f, events⟩, rfl, by simp, by simp⟩
      | ok items => exact isCourse_deliver (ih []) events items

/-- Only a scan that is over has no turn left; the last turn of any other gives no item, and the
turns before do. -/
theorem isCourse_script (scan : Suspended) : scan = .finished ∨ IsCourse (ins.script disk scan) := by
  have hend : IsCourse [⟨.ended, []⟩] := ⟨[], ⟨.ended, []⟩, rfl, by simp, by simp⟩
  cases scan with
  | finished => exact Or.inl rfl
  | source text path => exact Or.inr (isCourse_deliver hend _ _)
  | file path =>
    refine Or.inr ?_
    simp only [script]
    cases ins.scanFile disk path with
    | mk result events =>
      cases result with
      | error f => exact ⟨[], ⟨.failed f, events⟩, rfl, by simp, by simp⟩
      | ok records => exact isCourse_deliver hend _ _
  | directory root filesOnly =>
    refine Or.inr ?_
    simp only [script]
    cases rootFailure? disk root with
    | some f => exact ⟨[], ⟨.failed f, []⟩, rfl, by simp, by simp⟩
    | none => exact ins.isCourse_turns disk filesOnly _ _ []
  | underWay ready root filesOnly left =>
    exact Or.inr ((ins.isCourse_turns disk filesOnly root _ []).items_append ready)

theorem pulls_finished (m : Nat) :
    ins.pulls disk m .finished = ⟨List.replicate m .ended, [], .finished⟩ := by
  induction m with
  | zero => rfl
  | succ m ih => simp [pulls, pull, ih, List.replicate_succ]

/-- After an answer that is no item the scan is over. -/
theorem pulls_scan_finished (hd : disk.root.WellFormed) {k : Nat} {scan : Suspended} {a : Answer}
    (ha : a ∈ (ins.pulls disk k scan).answers) (hi : ∀ i, a ≠ .item i) :
    (ins.pulls disk k scan).scan = .finished := by
  obtain ⟨hanswers, -, hrest⟩ := ins.pulls_script disk hd k scan
  -- all turns have been played, for only the last of them gives no item
  have hdone : (ins.script disk scan).length ≤ k := by
    rcases ins.isCourse_script disk scan with rfl | ⟨items, last, hs, hitems, -⟩
    · exact Nat.zero_le k
    · apply Nat.le_of_not_lt
      intro hk
      rw [hs, List.length_append, List.length_singleton] at hk
      have hle : k ≤ items.length := by omega
      rw [hanswers, played, hs, List.append_assoc, List.take_append_of_le_length hle] at ha
      obtain ⟨t, ht, rfl⟩ := List.mem_map.mp ha
      obtain ⟨i, hti⟩ := hitems t (List.mem_of_mem_take ht)
      exact hi i hti
  rw [List.drop_eq_nil_of_le hdone] at hrest
  rcases ins.isCourse_script disk (ins.pulls disk k scan).scan with h | ⟨items, last, hs, -, -⟩
  · exact h
  · rw [hs] at hrest
    simp at hrest

end Inspector

end DartSurvey.Scan
