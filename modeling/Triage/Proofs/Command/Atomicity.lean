import Triage.Proofs.Command.Desk
import Triage.Proofs.Command.Folder
import Triage.Proofs.Command.Rendering

namespace Triage.Command
open Act Text

-- The run comes to the point where it opens its output: the input is a source file that is there and
-- can be read as text and as a program, no answers are given, and the output can be opened.
inductive Opens (args : List (List Letter)) (folder : Folder) : Settings → Program → Path → Prop where
  | intro (arguments : Settings.ofArguments args = .ok (settings, some input)) (ending : sourceEnding <:+ input)
      (there : folder.content? input = some content) (decoded : Folder.textOf content = .ok text)
      (accepted : Source.readAs settings.strict text = .ok p) (unanswered : settings.answers = [])
      (target : folder.placeOf (outputName settings) = .ok place) : Opens args folder settings p place

variable {console : Console} {settings : Settings} {p : Program} {desk : Desk} {folder : Folder} {place : Path}

theorem quiet_reject (code : Nat) (message : List Letter) : Quiet (reject code message) :=
  (quiet_printError message).bind fun _ => quiet_pure code

theorem answer_harmless (settings : Settings) (p : Program) (desk : Desk) :
    Harmless (answer console settings p) desk := by
  unfold answer
  refine (quiet_lift _).thenHarmless fun answers _ _ => ?_
  refine (quiet_lift _).thenHarmless fun events _ _ => ?_
  refine (quiet_lift _).thenHarmless fun selected _ _ => ?_
  refine (quiet_printError _).thenHarmless fun _ _ _ => ?_
  cases selected with
  | none => exact (quiet_lift _).thenHarmless fun line _ _ => harmless_print line _
  | some text => exact (quiet_lift _).thenHarmless fun line _ _ => harmless_print line _

theorem generate_harmless (missed : ∀ place, desk.folder.placeOf (outputName settings) ≠ .ok place) :
    Harmless (generate console settings p) desk := by
  cases found : desk.folder.placeOf (outputName settings) with
  | ok place => exact absurd found (missed place)
  | error failure =>
      have ended : (generate console settings p).runOn desk = (.error failure, desk) := by
        rw [generate, runOn_bind, runOn_openFile, found]
      exact ⟨by rw [ended], Or.inl (by rw [ended])⟩

theorem generate_written (found : folder.placeOf (outputName settings) = .ok place)
    (rendered : written settings p = .ok page) (encoded : Letter.utf8? page = some content) (err : List Letter) :
    (generate console settings p).runOn ⟨[], err, folder⟩ =
      match console.out "File generated: " (outputName settings) with
      | .ok shown => (.ok 0, ⟨shown, err, folder.put place content⟩)
      | .error failure => (.error failure, ⟨[], err, folder.put place content⟩) := by
  simp only [generate, runOn_bind, runOn_openFile, found, runOn_lift, rendered, runOn_fill, encoded, Folder.put_put]
  cases console.out "File generated: " (outputName settings) with
  | ok shown => rfl
  | error failure => rfl

theorem generate_failed {failure : Failure} (found : folder.placeOf (outputName settings) = .ok place)
    (failed : written settings p = .error failure) (err : List Letter) :
    (generate console settings p).runOn ⟨[], err, folder⟩ = (.error failure, ⟨[], err, folder.put place []⟩) := by
  simp only [generate, runOn_bind, runOn_openFile, found, runOn_lift, failed]

theorem generate_unencodable (found : folder.placeOf (outputName settings) = .ok place)
    (rendered : written settings p = .ok page) (halved : Letter.utf8? page = none) (err : List Letter) :
    (generate console settings p).runOn ⟨[], err, folder⟩ =
      (.error .unencodable, ⟨[], err, folder.put place []⟩) := by
  simp only [generate, runOn_bind, runOn_openFile, found, runOn_lift, rendered, runOn_fill, halved]

theorem process_harmless (missed : ∀ p place, Source.readAs settings.strict text = .ok p → settings.answers = [] →
    desk.folder.placeOf (outputName settings) ≠ .ok place) : Harmless (process console settings text) desk := by
  unfold process
  refine (quiet_printError _).thenHarmless fun _ _ _ => ?_
  split
  · exact (quiet_reject 1 _).harmless _
  · exact (quiet_throw _).harmless _
  · rename_i p accepted
    refine (quiet_lift _).thenHarmless fun lines _ _ => ?_
    refine (quiet_printError _).thenHarmless fun _ _ _ => ?_
    split
    · rename_i unanswered
      exact generate_harmless fun place => missed p place accepted (List.isEmpty_iff.mp unanswered)
    · exact answer_harmless settings p _

theorem process_generate (accepted : Source.readAs settings.strict text = .ok p) (unanswered : settings.answers = [])
    (desk : Desk) :
    ∃ err, (process console settings text).runOn desk = (generate console settings p).runOn { desk with err := err } := by
  obtain ⟨named, _⟩ := Source.read_named (Source.read_of_readAs accepted)
  obtain ⟨lines, warned⟩ := warningLines_total named console settings
  refine ⟨desk.err ++ logged settings ((Source.steps settings.strict text).map stepLine) ++ lines, ?_⟩
  simp only [process, runOn_bind, runOn_printError, accepted, runOn_lift, warned, unanswered, List.isEmpty_nil, if_true]

theorem processInput_harmless (missed : ∀ content text p place, sourceEnding <:+ input →
    desk.folder.content? input = some content → Folder.textOf content = .ok text →
    Source.readAs settings.strict text = .ok p → settings.answers = [] →
      desk.folder.placeOf (outputName settings) ≠ .ok place) : Harmless (processInput console settings input) desk := by
  unfold processInput
  split
  · exact (quiet_reject 1 _).harmless _
  · rename_i ending
    have ending : sourceEnding <:+ input := by simpa using ending
    refine quiet_get.thenHarmless fun now err found => ?_
    obtain rfl : desk = now := Except.ok.inj (Prod.mk.inj found).1
    dsimp only
    split
    · rename_i content there
      refine (quiet_lift _).thenHarmless fun text err decoded => ?_
      have decoded : Folder.textOf content = .ok text := (Prod.mk.inj decoded).1
      exact process_harmless fun p place => missed content text p place ending there decoded
    · split
      · exact (quiet_throw _).harmless _
      · exact (quiet_reject 1 _).harmless _

theorem start_harmless (never : ∀ settings p place, ¬Opens args folder settings p place) :
    Harmless (perform console args) ⟨[], [], folder⟩ := by
  unfold perform
  split
  · exact (quiet_reject 2 _).harmless _
  · exact harmless_print _ _
  · exact harmless_print _ _
  · rename_i settings input arguments
    refine processInput_harmless fun content text p place ending there decoded accepted unanswered target => ?_
    exact never settings p place (.intro arguments ending there decoded accepted unanswered target)
  · exact (quiet_throw _).harmless _

theorem start_generate (opens : Opens args folder settings p place) (console : Console) :
    p.Every Datum.isText ∧ p.Proper ∧ folder.placeOf (outputName settings) = .ok place ∧
      ∃ err, start console args folder = (generate console settings p).runOn ⟨[], err, folder⟩ := by
  cases opens with
  | @intro input content text _ _ arguments ending there decoded accepted unanswered target =>
      have whole := Source.read_of_readAs accepted
      obtain ⟨err, ended⟩ := process_generate accepted unanswered ⟨[], [], folder⟩
      refine ⟨Source.read_texts whole, (Source.read_named whole).2, target, err, ?_⟩
      have reads : (processInput console settings input).runOn ⟨[], [], folder⟩ =
          (process console settings text).runOn ⟨[], [], folder⟩ := by
        have starts : (!sourceEnding.isSuffixOf input) = false := by simpa using ending
        simp only [processInput, starts, Bool.false_eq_true, if_false, runOn_bind, runOn_get, there, runOn_lift, decoded]
      have runs : start console args folder = (processInput console settings input).runOn ⟨[], [], folder⟩ := by
        simp only [start, perform, arguments]
      exact runs.trans (reads.trans ended)

-- A run that opens its output writes the form that was asked for, and that file alone. It ends well if
-- the console can show the name of the file. Under a title that can not be written an empty file is left,
-- and the run fails. A run that does not open its output changes no file, and prints nothing but errors
-- unless it ends well.
theorem start_writes (console : Console) (args : List (List Letter)) (folder : Folder) :
    (∀ settings p place, Opens args folder settings p place →
      (∃ name, Letter.fileName? (settings.output.shown ++ .char '.' :: formName settings) = some name ∧
        place = resolve folder.place name) ∧
      ∃ err after,
        (settings.Titled → ∃ text, written settings p = .ok (Letter.ofChars text) ∧
          folder.Wrote after place (encodeUtf8 text) ∧
          start console args folder =
            match console.out "File generated: " (outputName settings) with
            | .ok shown => (.ok 0, ⟨shown, err, after⟩)
            | .error failure => (.error failure, ⟨[], err, after⟩)) ∧
        (¬settings.Titled → folder.Wrote after place [] ∧
          ∃ failure, start console args folder = (.error failure, ⟨[], err, after⟩))) ∧
    ((∀ settings p place, ¬Opens args folder settings p place) →
      (start console args folder).2.folder = folder ∧
        ((start console args folder).2.out = [] ∨ (start console args folder).1 = .ok 0)) := by
  constructor
  · intro settings p place opens
    obtain ⟨texts, proper, target, err, ended⟩ := start_generate opens console
    refine ⟨Folder.placeOf_resolve target, err, ?_⟩
    by_cases titled : settings.Titled
    · obtain ⟨text, rendered⟩ := written_titled texts proper titled
      have encoded : Letter.utf8? (Letter.ofChars text) = some (encodeUtf8 text) := by
        rw [Letter.utf8?, Letter.chars?_ofChars, Option.map_some]
      refine ⟨folder.put place (encodeUtf8 text), fun _ => ⟨text, rendered, Folder.wrote_put folder place _, ?_⟩,
        fun untitled => absurd titled untitled⟩
      rw [ended, generate_written target rendered encoded]
    · refine ⟨folder.put place [], fun also => absurd also titled, fun _ => ⟨Folder.wrote_put folder place [], ?_⟩⟩
      rcases written_untitled texts proper titled with ⟨failure, failed⟩ | ⟨page, rendered, halved⟩
      · exact ⟨failure, by rw [ended, generate_failed target failed]⟩
      · exact ⟨.unencodable, by rw [ended, generate_unencodable target rendered halved]⟩
  · intro never
    have harmless : Harmless (perform console args) ⟨[], [], folder⟩ := start_harmless never
    exact ⟨harmless.folder, harmless.out⟩

def sheet : List UInt8 :=
  encodeUtf8 "stmt\r\na = Is it loud?\r\nendstmt results r = b endresults rules IF NOT a THEN r endrules".toList

def shelf : Folder where
  place := [encodeUtf8 ['w']]
  files := [([encodeUtf8 ['w'], encodeUtf8 "q.xsys".toList], sheet)]
  folders := []

def quiz : Program where
  statements := [⟨.text "a", .text "Is it loud?"⟩]
  results := [⟨.text "r", .text "b"⟩]
  rules := [⟨.leaf ⟨.text "a", true⟩, .text "r"⟩]

def strictJson : Settings :=
  { Settings.usual with input := some (some (Letter.ofString "q.xsys")), form := some .json, strict := true }

def elsewhere : Settings := { strictJson with output := some (Letter.ofString "a/b") }

-- A page under a title that ends in the single byte E9.
def halfTitled : Settings :=
  { Settings.usual with
    input := some (some (Letter.ofString "q.xsys"))
    title := some (Letter.ofString "caf" ++ [.half 0x4E9]) }

theorem start_writes_shelf :
    (∃ text err after, written strictJson quiz = .ok (Letter.ofChars text) ∧
      shelf.Wrote after [encodeUtf8 ['w'], encodeUtf8 "output.json".toList] (encodeUtf8 text) ∧
      start .plain (["-tjson", "--strict", "-iq.xsys"].map Letter.ofString) shelf =
        (.ok 0, ⟨Letter.ofString "File generated: output.json\n", err, after⟩)) ∧
    (start .plain (["-tjson", "--strict", "-iq.xsys", "-oa/b"].map Letter.ofString) shelf).2.folder = shelf ∧
    (∃ failure err after, shelf.Wrote after [encodeUtf8 ['w'], encodeUtf8 "output.html".toList] [] ∧
      start .plain [Letter.ofString "-iq.xsys", Letter.ofString "-Tcaf" ++ [.half 0x4E9]] shelf =
        (.error failure, ⟨[], err, after⟩)) := by
  have found : shelf.content? (Letter.ofString "q.xsys") = some sheet := by decide +kernel
  have decoded : Folder.textOf sheet =
      .ok "stmt\na = Is it loud?\nendstmt results r = b endresults rules IF NOT a THEN r endrules".toList := by
    decide +kernel
  have ending : sourceEnding <:+ Letter.ofString "q.xsys" := by decide +kernel
  have accepted (strict : Bool) : Source.readAs strict
      "stmt\na = Is it loud?\nendstmt results r = b endresults rules IF NOT a THEN r endrules".toList = .ok quiz := by
    cases strict <;> decide +kernel
  refine ⟨?_, ?_, ?_⟩
  · have arguments : Settings.ofArguments (["-tjson", "--strict", "-iq.xsys"].map Letter.ofString) =
        .ok (strictJson, some (Letter.ofString "q.xsys")) := by decide +kernel
    have target : shelf.placeOf (outputName strictJson) =
        .ok [encodeUtf8 ['w'], encodeUtf8 "output.json".toList] := by decide +kernel
    have shown : Console.plain.out "File generated: " (outputName strictJson) =
        .ok (Letter.ofString "File generated: output.json\n") := by decide +kernel
    have opens := Opens.intro arguments ending found decoded (accepted true) rfl target
    obtain ⟨_, err, after, writes, _⟩ := (start_writes .plain _ shelf).1 _ _ _ opens
    obtain ⟨text, rendered, wrote, ended⟩ := writes (Or.inl rfl)
    rw [shown] at ended
    exact ⟨text, err, after, rendered, wrote, ended⟩
  · have arguments : Settings.ofArguments (["-tjson", "--strict", "-iq.xsys", "-oa/b"].map Letter.ofString) =
        .ok (elsewhere, some (Letter.ofString "q.xsys")) := by decide +kernel
    have missing : shelf.placeOf (outputName elsewhere) = .error .missingFolder := by decide +kernel
    refine ((start_writes .plain _ shelf).2 fun settings p place opens => ?_).1
    cases opens with
    | intro given _ _ _ _ _ target =>
        cases arguments.symm.trans given
        cases missing.symm.trans target
  · have arguments : Settings.ofArguments [Letter.ofString "-iq.xsys", Letter.ofString "-Tcaf" ++ [.half 0x4E9]] =
        .ok (halfTitled, some (Letter.ofString "q.xsys")) := by decide +kernel
    have target : shelf.placeOf (outputName halfTitled) =
        .ok [encodeUtf8 ['w'], encodeUtf8 "output.html".toList] := by decide +kernel
    have opens := Opens.intro arguments ending found decoded (accepted false) rfl target
    have untitled : ¬halfTitled.Titled := by
      rintro (json | yaml | ⟨title, isTitle⟩)
      · cases json
      · cases yaml
      · have halved : Letter.chars? (Letter.ofString "caf" ++ [.half 0x4E9]) = none := by decide +kernel
        rw [Option.some.inj isTitle, Letter.chars?_ofChars] at halved
        cases halved
    obtain ⟨_, err, after, _, fails⟩ := (start_writes .plain _ shelf).1 _ _ _ opens
    obtain ⟨wrote, failure, ended⟩ := fails untitled
    exact ⟨failure, err, after, wrote, ended⟩

end Triage.Command
