import DartSurvey.Proofs.Scan.Drain

/-!
# Many scans of one inspector

A session opens any number of scans of one inspector and pulls and closes them in any order, on a disk that
stays as it is. No scan notices the others.

- `step`, `replies`: one operation of a session, and the turns that its pulls play, each with the number of
  the scan; `alone` leaves of a session one scan with its own pulls and closes.
- One operation on another scan leaves a scan as it is, so in the rest of a session an open scan does what
  it does when it is played by itself (`turnsOf_replies`, by recursion on the operations).
- `scans_do_not_disturb`: so its turns are those of the session that is left of it alone, and its answers
  are those of all its steps taken at once, up to its first close.
-/

namespace DartSurvey.Scan

open Disk (Path)

/-- What a scan is opened for. -/
inductive Request where
  | source (text : String) (path : Option String)
  | file (path : String)
  | directory (root : String)

/-- The scan as it is opened. -/
def Request.start : Request → Suspended
  | .source text path => .source text path
  | .file path => .file (Path.ofString path)
  | .directory root => .directory root false

/-- What can be done with an open scan. -/
inductive Act where
  | pull
  | close
deriving DecidableEq

/-- An operation of a session: scans are numbered in the order in which they are opened. -/
inductive Operation where
  | opening (r : Request)
  | act (scan : Nat) (a : Act)

/-- The pulls before the first close. -/
def pullsBeforeClose (acts : List Act) : Nat := (acts.takeWhile (· == .pull)).length

/-- What is done with one scan. -/
def actsOn (k : Nat) (ops : List Operation) : List Act :=
  ops.filterMap fun
    | .opening _ => none
    | .act i a => if i = k then some a else none

/-- The session in which only one scan is opened, by the same request, and the same is done with it. The
number of scans that are open already is `opened`. -/
def alone (k : Nat) (opened : Nat) : List Operation → List Operation
  | [] => []
  | .opening r :: ops =>
    if opened = k then .opening r :: (actsOn k ops).map (.act 0) else alone k (opened + 1) ops
  | .act _ _ :: ops => alone k opened ops

/-- The turns of one scan. -/
def turnsOf (k : Nat) (replies : List (Nat × Turn)) : List Turn :=
  (replies.filter fun reply => reply.1 == k).map Prod.snd

theorem turnsOf_append (k : Nat) (xs ys : List (Nat × Turn)) :
    turnsOf k (xs ++ ys) = turnsOf k xs ++ turnsOf k ys := by
  simp [turnsOf]

theorem turnsOf_self (k : Nat) (ts : List Turn) : turnsOf k (ts.map (k, ·)) = ts := by
  simp [turnsOf, List.filter_map, Function.comp_def]

theorem turnsOf_other {i k : Nat} (h : i ≠ k) (ts : List Turn) : turnsOf k (ts.map (i, ·)) = [] := by
  simp [turnsOf, List.filter_map, Function.comp_def, h]

theorem actsOn_map (k : Nat) (acts : List Act) : actsOn k (acts.map (.act k)) = acts := by
  simp [actsOn, List.filterMap_map]

theorem actsOn_cons (k : Nat) (op : Operation) (ops : List Operation) :
    actsOn k (op :: ops) = actsOn k [op] ++ actsOn k ops := by
  rw [actsOn, ← List.singleton_append, List.filterMap_append]
  rfl

namespace Inspector

variable (ins : Inspector) (disk : Disk)

/-- Does something with a scan: what is left of it, and the turn that is played, if it was pulled. -/
def act (scan : Suspended) : Act → Suspended × List Turn
  | .pull => ((ins.pull disk scan).scan, [(ins.pull disk scan).turn])
  | .close => (scan.close, [])

/-- One operation of a session. With a scan that is not open nothing can be done. -/
def step (scans : List Suspended) : Operation → List Suspended × List (Nat × Turn)
  | .opening r => (scans ++ [r.start], [])
  | .act i a =>
    match scans[i]? with
    | none => (scans, [])
    | some scan => (scans.set i (ins.act disk scan a).1, (ins.act disk scan a).2.map (i, ·))

/-- The turns of a session, each with the number of its scan. -/
def replies (scans : List Suspended) : List Operation → List (Nat × Turn)
  | [] => []
  | op :: ops => (ins.step disk scans op).2 ++ replies (ins.step disk scans op).1 ops

/-- The turns of a scan that is played by itself. -/
def play (scan : Suspended) : List Act → List Turn
  | [] => []
  | a :: acts => (ins.act disk scan a).2 ++ play (ins.act disk scan a).1 acts

/-! ## One scan among others -/

theorem step_missing {scans : List Suspended} {i : Nat} (h : scans[i]? = none) (a : Act) :
    ins.step disk scans (.act i a) = (scans, []) := by
  simp only [step, h]

theorem step_act {scans : List Suspended} {i : Nat} {scan : Suspended} (h : scans[i]? = some scan) (a : Act) :
    ins.step disk scans (.act i a) =
      (scans.set i (ins.act disk scan a).1, (ins.act disk scan a).2.map (i, ·)) := by
  simp only [step, h]

/-- What is done with one scan leaves the others as they are. -/
theorem step_other {i k : Nat} (hi : i ≠ k) (scans : List Suspended) (a : Act) :
    (ins.step disk scans (.act i a)).1[k]? = scans[k]? ∧ turnsOf k (ins.step disk scans (.act i a)).2 = [] := by
  cases hscan : scans[i]? with
  | none =>
    rw [ins.step_missing disk hscan]
    exact ⟨rfl, rfl⟩
  | some scan =>
    rw [ins.step_act disk hscan]
    exact ⟨List.getElem?_set_ne hi, turnsOf_other hi _⟩

/-- An operation does with an open scan what it says, if it is meant, and leaves it as it is, if not. -/
theorem step_open {scans : List Suspended} {k : Nat} {scan : Suspended} (h : scans[k]? = some scan)
    (op : Operation) :
    ∃ scan', (ins.step disk scans op).1[k]? = some scan' ∧
      ∀ acts, turnsOf k (ins.step disk scans op).2 ++ ins.play disk scan' acts
        = ins.play disk scan (actsOn k [op] ++ acts) := by
  have hlt : k < scans.length := (List.getElem?_eq_some_iff.mp h).1
  cases op with
  | opening r =>
    refine ⟨scan, ?_, fun _ => rfl⟩
    rw [step, List.getElem?_append_left hlt, h]
  | act i a =>
    by_cases hi : i = k
    · subst hi
      rw [ins.step_act disk h]
      refine ⟨(ins.act disk scan a).1, List.getElem?_set_self hlt, fun acts => ?_⟩
      rw [turnsOf_self]
      simp [actsOn, play]
    · obtain ⟨hscan, hturns⟩ := ins.step_other disk hi scans a
      refine ⟨scan, hscan.trans h, fun acts => ?_⟩
      rw [hturns]
      simp [actsOn, hi]

/-- In a session an open scan plays what it plays by itself. -/
theorem turnsOf_replies {scans : List Suspended} {k : Nat} {scan : Suspended} (h : scans[k]? = some scan)
    (ops : List Operation) : turnsOf k (ins.replies disk scans ops) = ins.play disk scan (actsOn k ops) := by
  induction ops generalizing scans scan with
  | nil => rfl
  | cons op ops ih =>
    obtain ⟨scan', hscan', hstep⟩ := ins.step_open disk h op
    rw [replies, turnsOf_append, ih hscan', hstep, ← actsOn_cons]

/-- What is done before a scan is opened does not matter to it. -/
theorem turnsOf_replies_unopened {scans : List Suspended} {k : Nat} (h : scans.length ≤ k)
    (ops : List Operation) :
    turnsOf k (ins.replies disk scans ops) = turnsOf 0 (ins.replies disk [] (alone k scans.length ops)) := by
  induction ops generalizing scans with
  | nil => rfl
  | cons op ops ih =>
    cases op with
    | opening r =>
      have hreplies : ins.replies disk scans (.opening r :: ops) = ins.replies disk (scans ++ [r.start]) ops := rfl
      rw [hreplies, alone]
      split
      · rename_i hk
        have hopened : (scans ++ [r.start])[k]? = some r.start := by simp [← hk]
        have halone : ins.replies disk [] (.opening r :: (actsOn k ops).map (.act 0))
            = ins.replies disk [r.start] ((actsOn k ops).map (.act 0)) := rfl
        rw [ins.turnsOf_replies disk hopened, halone, ins.turnsOf_replies disk rfl, actsOn_map]
      · rename_i hk
        have hlength : (scans ++ [r.start]).length = scans.length + 1 := by simp
        rw [ih (by omega), hlength]
    | act i a =>
      rw [replies, turnsOf_append, alone]
      cases hscan : scans[i]? with
      | none =>
        rw [ins.step_missing disk hscan, ih h]
        rfl
      | some scan =>
        have hi : i < scans.length := (List.getElem?_eq_some_iff.mp hscan).1
        have hne : i ≠ k := by omega
        have hlength : (scans.set i (ins.act disk scan a).1).length = scans.length := List.length_set
        rw [ins.step_act disk hscan, turnsOf_other hne, ih (hlength.trans_le h), hlength]
        rfl

/-! ## What a scan gives by itself -/

theorem answers_deliver (events : List Event) (items : List Item) :
    ∃ n, (deliver events [⟨.ended, []⟩] items).map Turn.answer = items.map .item ++ List.replicate n .ended := by
  cases items with
  | nil => exact ⟨1, rfl⟩
  | cons i ready => exact ⟨1, by simp [deliver, Function.comp_def]⟩

/-- The answers of a fresh scan, one after the other, are those of all its steps taken at once. -/
theorem answers_script (r : Request) :
    ∃ n, (ins.script disk r.start).map Turn.answer =
      (ins.drain disk r.start).answers ++ List.replicate n .ended := by
  cases r with
  | source text path =>
    obtain ⟨n, hn⟩ := answers_deliver (ins.scanSource text path).2 ((ins.scanSource text path).1.map .record)
    exact ⟨n, by simpa [Request.start, script, drain, Drained.answers] using hn⟩
  | file path =>
    simp only [Request.start, script, drain]
    cases ins.scanFile disk (Path.ofString path) with
    | mk result events =>
      cases result with
      | error f => exact ⟨0, rfl⟩
      | ok records =>
        obtain ⟨n, hn⟩ := answers_deliver events (records.map .record)
        exact ⟨n, by simpa [Drained.answers] using hn⟩
  | directory root =>
    simp only [Request.start]
    by_cases hroot : disk.isFolder (Path.ofString root) = true
    · rw [ins.answers_drain disk hroot, sourceFiles_of_encounters]
      simp only [script, rootFailure?_of_isFolder disk hroot]
      exact ins.answers_turns disk (Path.ofString root) _ []
    · obtain ⟨f, hf⟩ := rootFailure?_of_not_isFolder disk hroot
      simp only [script, drain, hf]
      exact ⟨0, rfl⟩

/-- A closed scan reports the end at every pull. -/
theorem play_finished (acts : List Act) :
    ins.play disk .finished acts = List.replicate (acts.count Act.pull) ⟨.ended, []⟩ := by
  induction acts with
  | nil => rfl
  | cons a acts ih =>
    cases a with
    | pull =>
      rw [List.count_cons_self, List.replicate_succ]
      exact congrArg (Turn.mk .ended [] :: ·) ih
    | close =>
      rw [List.count_cons_of_ne (by decide)]
      exact ih

/-- The turns of a scan that is played by itself: those of its script, up to the first close. -/
theorem play_script (hd : disk.root.WellFormed) (scan : Suspended) (acts : List Act) :
    ins.play disk scan acts =
      ((ins.script disk scan).take (pullsBeforeClose acts)
        ++ List.replicate (acts.count Act.pull) (Turn.mk .ended [])).take (acts.count Act.pull) := by
  induction acts generalizing scan with
  | nil => rfl
  | cons a acts ih =>
    cases a with
    | pull =>
      obtain ⟨hturn, hrest⟩ := ins.pull_script disk hd scan
      have hcount : pullsBeforeClose (.pull :: acts) = pullsBeforeClose acts + 1 := rfl
      rw [List.count_cons_self, hcount, take_succ_append_replicate, play, act, ih, hrest, hturn]
      cases ins.script disk scan <;> simp
    | close =>
      rw [List.count_cons_of_ne (by decide)]
      simp [pullsBeforeClose, play, act, Suspended.close, play_finished]

/-- **Scans of one inspector do not disturb each other.** Whatever the operations of a session are, the
turns of each of its scans are those of the session in which only that scan is opened, and the same is
pulled and closed. Its answers are those of all its steps taken at once, in their order; behind the last of
them, and after a close, every pull reports the end. -/
theorem scans_do_not_disturb (ops : List Operation) (k : Nat) :
    let mine := turnsOf k (ins.replies disk [] ops)
    mine = turnsOf 0 (ins.replies disk [] (alone k 0 ops)) ∧
      (disk.root.WellFormed → ∀ (r : Request) (acts : List Act), alone k 0 ops = .opening r :: acts.map (.act 0) →
        mine.map Turn.answer =
          ((ins.drain disk r.start).answers.take (pullsBeforeClose acts)
            ++ List.replicate (acts.count Act.pull) Answer.ended).take (acts.count Act.pull)) := by
  intro mine
  have hmine : mine = turnsOf 0 (ins.replies disk [] (alone k 0 ops)) :=
    ins.turnsOf_replies_unopened disk (Nat.zero_le k) ops
  refine ⟨hmine, fun hd r acts halone => ?_⟩
  have hplay : mine = ins.play disk r.start acts := by
    have hopened : ins.replies disk [] (.opening r :: acts.map (.act 0))
        = ins.replies disk [r.start] (acts.map (.act 0)) := rfl
    rw [hmine, halone, hopened, ins.turnsOf_replies disk rfl, actsOn_map]
  obtain ⟨n, hn⟩ := ins.answers_script disk r
  have hfirst : ∀ m, ((ins.drain disk r.start).answers ++ List.replicate n Answer.ended).take m =
      (ins.drain disk r.start).answers.take m
        ++ List.replicate (min (m - (ins.drain disk r.start).answers.length) n) .ended := by
    intro m
    rw [List.take_append, List.take_replicate]
  rw [hplay, ins.play_script disk hd, List.map_take, List.map_append, List.map_take, hn, List.map_replicate,
    hfirst, take_append_replicate_add]

/-- A session that opens a scan of a directory and one of a text, and closes the second between two of its
pulls. -/
def sampleSession : List Operation :=
  [.opening (.directory "lib"), .act 0 .pull, .opening (.source "x" none), .act 1 .pull, .act 0 .pull,
    .act 1 .close, .act 0 .pull, .act 1 .pull]

theorem scans_do_not_disturb_sample :
    sampleDisk.root.WellFormed ∧
      (turnsOf 1 (sampleInspector.replies sampleDisk [] sampleSession)).map Turn.answer =
        [.item (.record (.fileImports [⟨"u", none, false⟩] .null)), .ended] := by
  have hd : sampleDisk.root.WellFormed := by
    simp [sampleDisk, sampleFolder, Disk.Folder.WellFormed, Disk.Entry.WellFormed, Disk.IsName]
  refine ⟨hd, ?_⟩
  rw [(scans_do_not_disturb sampleInspector sampleDisk sampleSession 1).2 hd (.source "x" none)
    [.pull, .close, .pull] rfl]
  rfl

end Inspector

end DartSurvey.Scan
