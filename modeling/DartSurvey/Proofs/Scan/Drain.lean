import DartSurvey.Proofs.Scan.Lazy

/-!
# Scans to their end

All steps of a directory scan taken at once give what reading the source files one after the other gives.

- The items and the failure of a drained scan, read as answers, are the eager report (`answers_drain`),
  on any disk.
- In the eager report, files that can be read and decoded give their records, whatever follows them
  (`eagerReport_append`).
- So a drained scan has the records of all files if all can be read (`drain_readable`), and those of the
  files before the first that cannot, with its error (`drain_unreadable`).
-/

namespace DartSurvey.Scan.Inspector

open Disk (Path)
open Report (Record)

variable (ins : Inspector) (disk : Disk)

/-- The records of a file; one that cannot be read or decoded has none. -/
def fileRecords (path : Path) : List Record := (textOf? disk path).elim [] (ins.recordsOf path)

/-- What a drained scan gives, as answers to pulls. -/
def Drained.answers (x : Drained) : List Answer := x.items.map .item ++ x.failure.toList.map .failed

/-- The answers tell the items and the failure. -/
theorem Drained.eq_of_answers {x : Drained} {items : List Item} {failure : Option Failure}
    (h : x.answers = items.map .item ++ failure.toList.map .failed) : x.items = items ∧ x.failure = failure := by
  have hinj : ∀ (xs ys : List Item) (f g : Option Failure),
      xs.map Answer.item ++ f.toList.map .failed = ys.map .item ++ g.toList.map .failed → xs = ys ∧ f = g := by
    intro xs
    induction xs with
    | nil =>
      intro ys f g h
      cases ys with
      | nil => cases f <;> cases g <;> simp_all
      | cons y ys => cases f <;> simp at h
    | cons i xs ih =>
      intro ys f g h
      cases ys with
      | nil => cases g <;> simp at h
      | cons y ys =>
        simp only [List.map_cons, List.cons_append, List.cons.injEq, Answer.item.injEq] at h
        obtain ⟨rfl, rfl⟩ := ih ys f g h.2
        exact ⟨congrArg (· :: xs) h.1, rfl⟩
  exact hinj _ _ _ _ h

/-! ## The eager report -/

/-- The source files of a directory are those among the encounters of its walk, on any disk. -/
theorem sourceFiles_of_encounters (root : String) :
    ins.sourceFiles disk root =
      ⟨(sources (arrivalAt (Path.ofString root) ins.rules disk [])).map (Path.ofString root).append,
        ins.obstacle? (Path.ofString root) (arrivalAt (Path.ofString root) ins.rules disk [])⟩ := by
  have hend : ins.sourceFiles disk root =
      ⟨(Walk.endOf ((ins.listing (Path.ofString root)).arrive disk [] [])).1,
        (Walk.endOf ((ins.listing (Path.ofString root)).arrive disk [] [])).2⟩ := by
    unfold sourceFiles
    cases (ins.listing (Path.ofString root)).arrive disk [] [] <;> rfl
  have hcourse : arrivalAt (ins.listing (Path.ofString root)).root (ins.listing (Path.ofString root)).rules disk []
      = arrivalAt (Path.ofString root) ins.rules disk [] := rfl
  obtain ⟨hfiles, hfailure⟩ :=
    ins.feed_listing (Path.ofString root) (arrivalAt (Path.ofString root) ins.rules disk []) []
  rw [hend, Walk.arrive_end, hcourse]
  unfold Walk.feedEnd
  rw [hfiles, hfailure, List.nil_append]

/-- The walk that collects records goes through the eager report. -/
theorem feedEnd_collecting (root : Path) (xs : List Encounter) (items : List Item) (events : List Event) :
    ((ins.collecting disk false root).feedEnd (items, events) xs).1.1.map Answer.item
        ++ ((ins.collecting disk false root).feedEnd (items, events) xs).2.toList.map .failed
      = items.map Answer.item
        ++ ins.eagerReport disk (ins.obstacle? root xs) ((sources xs).map root.append) := by
  induction xs generalizing items events with
  | nil => rfl
  | cons x xs ih =>
    cases x with
    | excluded place =>
      have hstep : (ins.collecting disk false root).feedEnd (items, events) (.excluded place :: xs)
          = (ins.collecting disk false root).feedEnd (items, events ++ [.excluded (Walk.relative place)]) xs := rfl
      rw [hstep, ih]
      rfl
    | hidden e place => rfl
    | barred e place => rfl
    | source place =>
      simp only [sources, obstacle?, List.map_cons, eagerReport]
      cases hread : disk.readText (root.append place) (root.append place).text with
      | error e =>
        simp [Walk.feedEnd, Walk.feed, Walk.meet, Walk.pathOf, collecting, itemsOf, scanFile, hread, Except.map]
      | ok text =>
        have hstep : (ins.collecting disk false root).feedEnd (items, events) (.source place :: xs)
            = (ins.collecting disk false root).feedEnd
              (items ++ (ins.recordsOf (root.append place) text).map .record,
                events ++ (ins.scanFile disk (root.append place)).2) xs := by
          simp [Walk.feedEnd, Walk.feed, Walk.meet, Walk.pathOf, collecting, itemsOf, scanFile, scanSource,
            recordsOf, hread, Except.map]
        rw [hstep, ih]
        simp [List.append_assoc, Function.comp_def]

/-- A drained scan of a directory gives the eager report of its source files. -/
theorem answers_drain {root : String} (hroot : disk.isFolder (Path.ofString root) = true) :
    (ins.drain disk (.directory root false)).answers =
      ins.eagerReport disk (ins.sourceFiles disk root).failure (ins.sourceFiles disk root).files := by
  have hend : (ins.drain disk (.directory root false)).answers
      = (Walk.endOf ((ins.collecting disk false (Path.ofString root)).arrive disk [] ([], []))).1.1.map .item
        ++ (Walk.endOf ((ins.collecting disk false (Path.ofString root)).arrive disk [] ([], []))).2.toList.map
          .failed := by
    simp only [drain, rootFailure?_of_isFolder disk hroot]
    cases (ins.collecting disk false (Path.ofString root)).arrive disk [] ([], []) <;> rfl
  have hcourse : arrivalAt (ins.collecting disk false (Path.ofString root)).root
      (ins.collecting disk false (Path.ofString root)).rules disk []
        = arrivalAt (Path.ofString root) ins.rules disk [] := rfl
  rw [hend, Walk.arrive_end, hcourse, feedEnd_collecting, sourceFiles_of_encounters, List.map_nil,
    List.nil_append]

/-- Files that can be read and decoded give their records, whatever follows them. -/
theorem eagerReport_append (failure : Option Failure) {before : List Path}
    (h : ∀ path ∈ before, (textOf? disk path).isSome) (after : List Path) :
    ins.eagerReport disk failure (before ++ after) =
      ((before.flatMap (ins.fileRecords disk)).map .record).map Answer.item
        ++ ins.eagerReport disk failure after := by
  induction before with
  | nil => rfl
  | cons path rest ih =>
    have hpath := h path List.mem_cons_self
    have hrest := ih fun p hp => h p (List.mem_cons_of_mem path hp)
    simp only [List.cons_append, eagerReport, List.flatMap_cons, fileRecords]
    unfold textOf? at hpath ⊢
    cases hread : disk.readText path path.text with
    | error e => simp [hread, Except.toOption] at hpath
    | ok text => simp [hrest, Except.toOption, List.append_assoc]

/-! ## Drained scans -/

theorem rootFailure?_of_not_isFolder {root : String} (h : ¬disk.isFolder (Path.ofString root) = true) :
    ∃ f, rootFailure? disk root = some f := by
  unfold Disk.isFolder at h
  unfold rootFailure? Disk.probe
  cases hreach : disk.reach (Path.ofString root) with
  | error e => by_cases he : e.isAbsence = true <;> simp [hreach, he]
  | ok entry =>
    cases entry with
    | file bytes => simp [hreach]
    | link target => simp [hreach]
    | folder entries => simp [hreach] at h

theorem list_of_not_isFolder {p : Path} (h : ¬disk.isFolder p = true) : ∃ e, disk.list p = .error e := by
  unfold Disk.isFolder at h
  unfold Disk.list
  cases hreach : disk.reach p with
  | error e => exact ⟨e, rfl⟩
  | ok entry =>
    cases entry with
    | file bytes => exact ⟨_, rfl⟩
    | link target => exact ⟨_, rfl⟩
    | folder entries => simp [hreach] at h

/-- Where there is no directory there are no source files, and a scan has no items. -/
theorem drain_of_not_folder {root : String} (h : ¬disk.isFolder (Path.ofString root) = true) :
    (ins.sourceFiles disk root).files = [] ∧ (ins.drain disk (.directory root false)).items = [] := by
  obtain ⟨e, he⟩ := list_of_not_isFolder disk h
  obtain ⟨f, hf⟩ := rootFailure?_of_not_isFolder disk h
  constructor
  · rw [sourceFiles_of_encounters, arrivalAt, Disk.list_dotted, he]
    rfl
  · simp only [drain, hf]

variable {disk}

theorem textOf?_of_find {path : Path} {bytes : List UInt8} (h : disk.find true path = .ok (.file bytes)) :
    textOf? disk path = (Disk.decodeText bytes).toOption := by
  simp only [textOf?, Disk.readText, Disk.read, Disk.reach, h]

/-- A scan of files that can all be read and decoded has the records of all of them, and fails where the
walk is broken off. -/
theorem drain_readable {root : String} (hroot : disk.isFolder (Path.ofString root) = true)
    (h : ∀ path ∈ (ins.sourceFiles disk root).files, (textOf? disk path).isSome) :
    (ins.drain disk (.directory root false)).items =
        ((ins.sourceFiles disk root).files.flatMap (ins.fileRecords disk)).map .record ∧
      (ins.drain disk (.directory root false)).failure = (ins.sourceFiles disk root).failure := by
  have hreport := ins.eagerReport_append disk (ins.sourceFiles disk root).failure h []
  rw [List.append_nil, eagerReport] at hreport
  exact Drained.eq_of_answers ((ins.answers_drain disk hroot).trans hreport)

/-- A scan that comes to a file that cannot be read or decoded has the records of the files before it. -/
theorem drain_unreadable {root : String} (hroot : disk.isFolder (Path.ofString root) = true)
    {before after : List Path} {path : Path} (hfiles : (ins.sourceFiles disk root).files = before ++ path :: after)
    (hbefore : ∀ p ∈ before, (textOf? disk p).isSome) (hpath : textOf? disk path = none) :
    (ins.drain disk (.directory root false)).items = (before.flatMap (ins.fileRecords disk)).map .record ∧
      ∃ e, (ins.drain disk (.directory root false)).failure = some (.unreadable e) := by
  obtain ⟨e, he⟩ : ∃ e, disk.readText path path.text = .error e := by
    unfold textOf? at hpath
    cases hread : disk.readText path path.text with
    | error e => exact ⟨e, rfl⟩
    | ok text => simp [hread, Except.toOption] at hpath
  have hreport := ins.eagerReport_append disk (ins.sourceFiles disk root).failure hbefore (path :: after)
  rw [← hfiles, eagerReport, he] at hreport
  have hanswers : (ins.drain disk (.directory root false)).answers =
      ((before.flatMap (ins.fileRecords disk)).map .record).map .item
        ++ (some (Failure.unreadable e)).toList.map .failed := (ins.answers_drain disk hroot).trans hreport
  obtain ⟨hitems, hfailure⟩ := Drained.eq_of_answers hanswers
  exact ⟨hitems, e, hfailure⟩

end DartSurvey.Scan.Inspector
