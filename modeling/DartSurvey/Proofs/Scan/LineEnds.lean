import DartSurvey.Proofs.Disk.Direct
import DartSurvey.Proofs.Scan.Drain
import DartSurvey.Proofs.Text.WholeChars

/-!
# Line ends of scanned files

A file is scanned like the text in it with one kind of line end.

- Reading writes every line end as a line feed: that is to replace the pairs of a carriage return and a line
  feed, and then the carriage returns that are left (`unifyNewlines_eq`). A text whose line feeds were written
  in another way is read as it was (`unifyNewlines_withLineEnds`).
- The bytes of a text are read as that text with line feeds (`readText_of_holds`), so the first pull on a file
  gives what the first pull on that text gives, and leaves the same scan (`pull_file`).
- `file_scanned_like_text` says this of every number of pulls, and of files that differ in their line ends.
-/

namespace DartSurvey.Text

/-- A text in which each occurrence of a part, from left to right, is replaced. -/
def replaceAll (old new : List Char) : List Char → List Char
  | [] => []
  | c :: cs =>
    if old.isPrefixOf (c :: cs) then new ++ replaceAll old new (cs.drop (old.length - 1))
    else c :: replaceAll old new cs
termination_by cs => cs.length
decreasing_by
  · rw [List.length_drop, List.length_cons]
    omega
  · exact Nat.lt_succ_self _

/-- A text with a line feed for each pair of a carriage return and a line feed, and for each carriage return
that is left. -/
def withLineFeeds (cs : List Char) : List Char :=
  replaceAll ['\r'] ['\n'] (replaceAll ['\r', '\n'] ['\n'] cs)

theorem replaceAll_singleton (a : Char) (new cs : List Char) :
    replaceAll [a] new cs = cs.flatMap fun c => if c = a then new else [c] := by
  induction cs with
  | nil => simp [replaceAll]
  | cons c cs ih =>
    by_cases h : c = a
    · simp [replaceAll, h, ih]
    · simp [replaceAll, Ne.symm h, h, ih]

/-- Reading unifies line ends by replacement. -/
theorem unifyNewlines_eq (cs : List Char) : unifyNewlines cs = withLineFeeds cs := by
  simp only [withLineFeeds, replaceAll_singleton]
  fun_induction unifyNewlines cs with
  | case1 => simp [replaceAll]
  | case2 cs ih => simp [replaceAll, ih]
  | case3 cs hnot ih =>
    -- no line feed follows, so the pair is not found here
    have hpair : (['\r', '\n'].isPrefixOf ('\r' :: cs)) = false := by
      cases cs with
      | nil => rfl
      | cons d ds =>
        have hd : d ≠ '\n' := by
          rintro rfl
          exact hnot ds rfl
        simp [List.isPrefixOf, Ne.symm hd]
    rw [replaceAll, hpair, if_neg Bool.false_ne_true, List.flatMap_cons, if_pos rfl, ih]
    rfl
  | case4 c cs hpair hc ih =>
    have hc' : c ≠ '\r' := fun heq => hc heq
    simp [replaceAll, List.isPrefixOf, Ne.symm hc', hc', ih]

/-! ## Line ends written in another way -/

/-- A text with something else for each line feed. -/
def withLineEnds (ending : List Char) (cs : List Char) : List Char := replaceAll ['\n'] ending cs

theorem unifyNewlines_other {c : Char} (h : c ≠ '\r') (cs : List Char) :
    unifyNewlines (c :: cs) = c :: unifyNewlines cs := by
  rw [unifyNewlines]
  · rintro _ rfl
    exact absurd rfl h
  · exact h

theorem unifyNewlines_return {cs : List Char} (h : '\n' ∉ cs) :
    unifyNewlines ('\r' :: cs) = '\n' :: unifyNewlines cs := by
  rw [unifyNewlines]
  rintro cs' rfl
  exact h List.mem_cons_self

/-- A text without carriage returns is read as it stands. -/
theorem unifyNewlines_self {cs : List Char} (h : '\r' ∉ cs) : unifyNewlines cs = cs := by
  induction cs with
  | nil => rfl
  | cons c cs ih =>
    rw [List.mem_cons, not_or] at h
    rw [unifyNewlines_other (Ne.symm h.1), ih h.2]

/-- A text whose line feeds were written as pairs, or as carriage returns, is read as it was. -/
theorem unifyNewlines_withLineEnds {ending : List Char} (hending : ending = ['\r', '\n'] ∨ ending = ['\r'])
    {cs : List Char} (h : '\r' ∉ cs) : unifyNewlines (withLineEnds ending cs) = cs := by
  rw [withLineEnds, replaceAll_singleton]
  induction cs with
  | nil => rfl
  | cons c cs ih =>
    rw [List.mem_cons, not_or] at h
    rw [List.flatMap_cons]
    by_cases hc : c = '\n'
    · rw [if_pos hc, hc]
      rcases hending with rfl | rfl
      · exact congrArg ('\n' :: ·) (ih h.2)
      · -- no line feed is left, so none follows the carriage return
        have hnone : '\n' ∉ cs.flatMap fun c => if c = '\n' then ['\r'] else [c] := by
          rw [List.mem_flatMap]
          rintro ⟨d, -, hd⟩
          split at hd
          · simp at hd
          · exact absurd (List.mem_singleton.mp hd).symm ‹_›
        rw [List.singleton_append, unifyNewlines_return hnone, ih h.2]
    · rw [if_neg hc, List.singleton_append, unifyNewlines_other (Ne.symm h.1), ih h.2]

end DartSurvey.Text

namespace DartSurvey.Disk

/-- That a path leads to a file with the bytes of a text. -/
def HoldsText (disk : Disk) (path : Path) (text : String) : Prop :=
  disk.reach path = .ok (.file (Text.Utf8.encode text.toList))

/-- What is read of a file with the bytes of a text. -/
theorem readText_of_holds {disk : Disk} {path : Path} {text : String} (h : disk.HoldsText path text)
    (shownAs : String) : disk.readText path shownAs = .ok (String.ofList (Text.unifyNewlines text.toList)) := by
  unfold HoldsText at h
  simp only [readText, read, h, decodeText, Text.Utf8.decode_encode]

end DartSurvey.Disk

namespace DartSurvey.Scan.Inspector

open Disk (Path)

variable (ins : Inspector)

/-- The scan of a file starts like that of its text. -/
theorem scanFile_of_readText {disk : Disk} {path : Path} {text : String}
    (h : disk.readText path path.text = .ok text) :
    ins.scanFile disk path = (.ok (ins.scanSource text (some path.text)).1,
      .opening path.text :: (ins.scanSource text (some path.text)).2) := by
  simp only [scanFile, h]

/-- The first pull on a file gives what the first pull on its text gives, and leaves the same scan. -/
theorem pull_file {disk : Disk} {path : Path} {text : String} (h : disk.readText path path.text = .ok text) :
    (ins.pull disk (.file path)).answer = (ins.pull disk (.source text (some path.text))).answer ∧
      (ins.pull disk (.file path)).scan = (ins.pull disk (.source text (some path.text))).scan := by
  simp only [pull, ins.scanFile_of_readText h]
  cases (ins.scanSource text (some path.text)).1 with
  | nil => exact ⟨rfl, rfl⟩
  | cons r rs => exact ⟨rfl, rfl⟩

/-- All pulls on a file give what pulls on its text give. -/
theorem pulls_file {disk : Disk} {path : Path} {text : String} (h : disk.readText path path.text = .ok text)
    (k : Nat) :
    (ins.pulls disk k (.file path)).answers = (ins.pulls disk k (.source text (some path.text))).answers := by
  cases k with
  | zero => rfl
  | succ k =>
    obtain ⟨hanswer, hscan⟩ := ins.pull_file h
    simp only [pulls, hanswer, hscan]

theorem drain_file {disk : Disk} {path : Path} {text : String} (h : disk.readText path path.text = .ok text) :
    (ins.drain disk (.file path)).items = (ins.drain disk (.source text (some path.text))).items ∧
      (ins.drain disk (.file path)).failure = none := by
  simp only [drain, ins.scanFile_of_readText h]
  exact ⟨trivial, trivial⟩

/-- **Files are scanned like texts.** Pulls on a file with the bytes of a text give, one after the other, what
pulls on that text with line feeds give, and so do all steps at once, without a failure. So two files give the
same items if they hold the same text without carriage returns, one as it stands, and the other with its line
feeds written as pairs or as carriage returns. -/
theorem file_scanned_like_text (path text : String) :
    let file := Path.ofString path
    let read := String.ofList (Text.withLineFeeds text.toList)
    (∀ disk : Disk, disk.HoldsText file text →
      (∀ k, (ins.pulls disk k (.file file)).answers = (ins.pulls disk k (.source read (some file.text))).answers) ∧
        (ins.drain disk (.file file)).items = (ins.drain disk (.source read (some file.text))).items ∧
        (ins.drain disk (.file file)).failure = none) ∧
      ('\r' ∉ text.toList → ∀ disk disk' : Disk, disk.HoldsText file text →
        (∃ ending, (ending = ['\r', '\n'] ∨ ending = ['\r']) ∧
          disk'.HoldsText file (String.ofList (Text.withLineEnds ending text.toList))) →
        (ins.drain disk' (.file file)).items = (ins.drain disk (.file file)).items) := by
  intro file read
  constructor
  · intro disk hholds
    have hread := Disk.readText_of_holds hholds file.text
    rw [Text.unifyNewlines_eq] at hread
    exact ⟨fun k => ins.pulls_file hread k, ins.drain_file hread⟩
  · rintro hplain disk disk' hholds ⟨ending, hending, hholds'⟩
    have hread := Disk.readText_of_holds hholds file.text
    have hread' := Disk.readText_of_holds hholds' file.text
    rw [Text.unifyNewlines_self hplain] at hread
    rw [String.toList_ofList, Text.unifyNewlines_withLineEnds hending hplain] at hread'
    rw [(ins.drain_file hread').1, (ins.drain_file hread).1]
    rfl

/-- A disk with one file, with the bytes of a text. -/
def oneFileDisk (text : String) : Disk where
  base := "/work"
  root := [("a.dart", .file (Text.Utf8.encode text.toList))]

theorem holdsText_oneFileDisk (text : String) : (oneFileDisk text).HoldsText (Path.ofString "a.dart") text := by
  have hpath : Path.ofString "a.dart" = ⟨"", ["a.dart"]⟩ := by decide
  rw [hpath]
  exact Disk.find_file [] "a.dart" (by decide) rfl (by decide) rfl (by decide)

/-- An inspector whose parser finds one import in every text, of the text itself. -/
def echoInspector : Inspector where
  policy := .standard
  rules := []
  parse text := { directives := [.importing (some text) none false] }

/-- The record of a file with pairs for line ends holds the text with line feeds that was parsed. -/
theorem file_scanned_like_text_sample :
    ((oneFileDisk "é\n\n").HoldsText (Path.ofString "a.dart") "é\n\n" ∧
        (oneFileDisk "é\r\n\r\n").HoldsText (Path.ofString "a.dart") "é\r\n\r\n" ∧ '\r' ∉ "é\n\n".toList) ∧
      (echoInspector.pulls (oneFileDisk "é\r\n\r\n") 2 (.file (Path.ofString "a.dart"))).answers
        = [.item (.record (.fileImports [⟨"é\n\n", none, false⟩] (.text "a.dart"))), .ended] ∧
      (echoInspector.drain (oneFileDisk "é\r\n\r\n") (.file (Path.ofString "a.dart"))).items
        = [.record (.fileImports [⟨"é\n\n", none, false⟩] (.text "a.dart"))] ∧
      (echoInspector.drain (oneFileDisk "é\r\n\r\n") (.file (Path.ofString "a.dart"))).items
        = (echoInspector.drain (oneFileDisk "é\n\n") (.file (Path.ofString "a.dart"))).items := by
  have hlf := holdsText_oneFileDisk "é\n\n"
  have hcrlf := holdsText_oneFileDisk "é\r\n\r\n"
  have hplain : '\r' ∉ "é\n\n".toList := by decide
  have hpairs : String.ofList (Text.withLineEnds ['\r', '\n'] "é\n\n".toList) = "é\r\n\r\n" := by
    rw [Text.withLineEnds, Text.replaceAll_singleton]
    decide
  have hread : String.ofList (Text.withLineFeeds "é\r\n\r\n".toList) = "é\n\n" := by
    rw [← Text.unifyNewlines_eq]
    decide
  have hpath : (Path.ofString "a.dart").text = "a.dart" := by decide
  obtain ⟨hpulls, hitems, _⟩ := (file_scanned_like_text echoInspector "a.dart" "é\r\n\r\n").1 _ hcrlf
  simp only [hread, hpath] at hpulls hitems
  refine ⟨⟨hlf, hcrlf, hplain⟩, (hpulls 2).trans rfl, hitems.trans rfl, ?_⟩
  refine (file_scanned_like_text echoInspector "a.dart" "é\n\n").2 hplain _ _ hlf ⟨_, Or.inl rfl, ?_⟩
  rw [hpairs]
  exact hcrlf

end DartSurvey.Scan.Inspector
