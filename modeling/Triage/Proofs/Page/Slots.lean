import Triage.Page.Render
import Triage.Proofs.Text.Search

namespace Triage.Page
open Triage.Text

theorem Marker.mem_all (marker : Marker) : marker ∈ Marker.all := by
  cases marker <;> decide

theorem Marker.word_first (marker : Marker) : ∃ more, marker.word = '_' :: more := by
  cases marker <;> exact ⟨_, rfl⟩

theorem Marker.word_filled (marker : Marker) : marker.word ≠ [] := by
  obtain ⟨more, parts⟩ := marker.word_first
  rw [parts]
  exact List.cons_ne_nil _ _

theorem Marker.word_apart {marker other : Marker} (unlike : marker ≠ other) : ¬marker.word <:+: other.word := by
  have each : ∀ marker ∈ Marker.all, ∀ other ∈ Marker.all, marker ≠ other → ¬marker.word <:+: other.word := by decide
  exact each marker marker.mem_all other other.mem_all unlike

def Foreign (c : Char) : Prop := ∀ marker ∈ Marker.all, c ∉ marker.word

instance (c : Char) : Decidable (Foreign c) := inferInstanceAs (Decidable (∀ marker ∈ Marker.all, c ∉ marker.word))

theorem Foreign.word (foreign : Foreign c) (marker : Marker) : c ∉ marker.word := foreign marker marker.mem_all

theorem Foreign.unlike (foreign : Foreign c) : c ≠ '_' := by
  intro same
  subst same
  exact absurd foreign (by decide)

def Tame (text : List Char) : Prop := '_' ∉ text ∧ '<' ∉ text

instance (text : List Char) : Decidable (Tame text) := inferInstanceAs (Decidable ('_' ∉ text ∧ '<' ∉ text))

theorem Tame.append (first : Tame front) (second : Tame back) : Tame (front ++ back) := by
  simp only [Tame, List.mem_append, not_or]
  exact ⟨⟨first.1, second.1⟩, first.2, second.2⟩

theorem tame_lineOf {line : String} (tame : Tame line.toList) : Tame (lineOf line) := tame.append (by decide)

theorem tame_lines {lines : List String} (each : ∀ line ∈ lines, Tame line.toList) : Tame (lines.flatMap lineOf) := by
  induction lines with
  | nil => decide
  | cons line lines ih =>
      obtain ⟨here, later⟩ := List.forall_mem_cons.mp each
      rw [List.flatMap_cons]
      exact (tame_lineOf here).append (ih later)

def Piece.Tame : Piece → Prop
  | .plain text => Page.Tame text
  | .marker _ => True

theorem lineWith_tame {before after : String} (marker : Marker) (start : Tame before.toList) (stop : Tame after.toList) :
    ∀ piece ∈ lineWith before marker after, piece.Tame := by
  simp only [lineWith, List.forall_mem_cons]
  exact ⟨start, trivial, tame_lineOf stop, List.forall_mem_nil _⟩

theorem plainLines_tame {lines : List String} (each : ∀ line ∈ lines, Tame line.toList) :
    ∀ piece ∈ plainLines lines, piece.Tame := by
  rw [plainLines, List.forall_mem_singleton]
  exact tame_lines each

theorem script_tame : ∀ piece ∈ script, piece.Tame := by
  simp only [script, List.cons_append, List.forall_mem_cons, List.forall_mem_append]
  have newLine : Tame ['\n'] := by decide
  refine ⟨newLine, ⟨⟨⟨⟨?_, ?_⟩, ?_⟩, ?_⟩, ?_⟩, ?_⟩
  iterate 3 exact lineWith_tame _ (ofLetters _ (by decide)) (ofLetters _ (by decide))
  · apply plainLines_tame
    repeat refine List.forall_mem_cons.mpr ⟨ofLetters _ (by decide), ?_⟩
    exact List.forall_mem_nil _
  · exact lineWith_tame _ (ofLetters _ (by decide)) (ofLetters _ (by decide))
  · apply plainLines_tame
    exact List.forall_mem_singleton.mpr (ofLetters _ (by decide))

section Places

-- Every marker is followed by a plain piece that starts with a foreign character.
def Fenced : List Piece → Prop
  | [] => True
  | .plain _ :: pieces => Fenced pieces
  | .marker _ :: pieces => (∃ c text others, pieces = .plain (c :: text) :: others ∧ Foreign c) ∧ Fenced pieces

def turns (data : ScriptData) (markers : List Marker) (text : List Char) : List Char :=
  markers.foldl (fun text marker => replaceAll marker.word (data.text marker) text) text

variable {data : ScriptData} {pieces : List Piece} {fill : Marker → List Char} {text : List Char}

theorem replaceAll_filled (fenced : Fenced pieces) (tame : ∀ piece ∈ pieces, piece.Tame) (marker : Marker)
    (replacement : List Char) (fill : Marker → List Char) :
    replaceAll marker.word replacement (filled fill pieces) =
      filled (fun other => replaceAll marker.word replacement (fill other)) pieces := by
  induction pieces with
  | nil =>
      rw [filled, List.flatMap_nil, replaceAll]
      rfl
  | cons piece pieces ih =>
      obtain ⟨here, others⟩ := List.forall_mem_cons.mp tame
      cases piece with
      | plain text =>
          obtain ⟨more, word⟩ := marker.word_first
          have passes : Passes marker.word text := by
            rw [word]
            exact Passes.lacking here.1
          have goesOn := replaceAll_passes passes replacement (filled fill pieces)
          rw [ih fenced others] at goesOn
          exact goesOn
      | marker other =>
          obtain ⟨⟨c, text, more, rfl, foreign⟩, fenced⟩ := fenced
          have fence : (filled fill (.plain (c :: text) :: more)).head? = some c := rfl
          have apart := replaceAll_fence marker.word_filled fence (foreign.word marker) replacement (fill other)
          rw [ih fenced others] at apart
          exact apart

theorem turns_filled (fenced : Fenced pieces) (tame : ∀ piece ∈ pieces, piece.Tame) (markers : List Marker) :
    turns data markers (filled fill pieces) = filled (fun marker => turns data markers (fill marker)) pieces := by
  induction markers generalizing fill with
  | nil => rfl
  | cons marker markers ih =>
      have first := replaceAll_filled fenced tame marker (data.text marker) fill
      rw [turns, List.foldl_cons, first]
      exact ih

def Marker.later : Marker → List Marker
  | .rules => [.results, .statements, .noResult]
  | .results => [.statements, .noResult]
  | .statements => [.noResult]
  | .noResult => []

theorem turns_absent {markers : List Marker} (absent : ∀ marker ∈ markers, ¬marker.word <:+: text) :
    turns data markers text = text := by
  induction markers with
  | nil => rfl
  | cons marker markers ih =>
      obtain ⟨here, later⟩ := List.forall_mem_cons.mp absent
      rw [turns, List.foldl_cons, replaceAll_absent here]
      exact ih later

theorem Marker.all_parts (marker : Marker) :
    ∃ earlier, Marker.all = earlier ++ marker :: marker.later ∧ marker ∉ earlier := by
  cases marker with
  | rules => exact ⟨[], rfl, by decide⟩
  | results => exact ⟨[.rules], rfl, by decide⟩
  | statements => exact ⟨[.rules, .results], rfl, by decide⟩
  | noResult => exact ⟨[.rules, .results, .statements], rfl, by decide⟩

-- In the place of a marker its data are put in when its turn comes, and then the later markers are
-- replaced in them.
theorem turns_word (data : ScriptData) (marker : Marker) :
    turns data Marker.all marker.word = turns data marker.later (data.text marker) := by
  obtain ⟨earlier, parts, apart⟩ := marker.all_parts
  have kept : turns data earlier marker.word = marker.word := by
    apply turns_absent
    intro other member
    apply Marker.word_apart
    intro same
    rw [same] at member
    exact apart member
  have own : replaceAll marker.word (data.text marker) marker.word = data.text marker := by
    have here := replaceAll_here marker.word_filled (data.text marker) []
    rw [List.append_nil, replaceAll, List.append_nil] at here
    exact here
  rw [turns] at kept
  rw [parts, turns, List.foldl_append, kept, List.foldl_cons, own]
  rfl

theorem script_fenced : Fenced script := by
  have blank : Foreign ' ' := by decide
  have semicolon : Foreign ';' := by decide
  simp only [script, lineWith, plainLines, List.cons_append, List.nil_append, Fenced, and_true]
  exact ⟨⟨_, _, _, rfl, semicolon⟩, ⟨_, _, _, rfl, semicolon⟩, ⟨_, _, _, rfl, semicolon⟩, ⟨_, _, _, rfl, blank⟩⟩

theorem scriptText_places (data : ScriptData) :
    scriptText data = filled (fun marker => turns data marker.later (data.text marker)) script := by
  have parts : scriptText data = turns data Marker.all (filled Marker.word script) := rfl
  rw [parts, turns_filled script_fenced script_tame]
  congr 1
  funext marker
  exact turns_word data marker

end Places

section Straying

-- From some place on the second text has a foreign character where the first has an underscore.
def Strays (text other : List Char) : Prop :=
  ∃ front c rest others, text = front ++ '_' :: rest ∧ other = front ++ c :: others ∧ Foreign c

def ScriptData.Walled (data : ScriptData) : Prop :=
  ∀ marker, ∃ c text, data.text marker = c :: text ∧ Foreign c

variable {data : ScriptData} {text other : List Char}

theorem Strays.unlike (strays : Strays text other) : other ≠ text := by
  obtain ⟨front, c, rest, others, rfl, rfl, foreign⟩ := strays
  intro same
  have behind := List.append_cancel_left same
  exact foreign.unlike (List.cons.inj behind).1

theorem Strays.append (strays : Strays text other) (back more : List Char) : Strays (text ++ back) (other ++ more) := by
  obtain ⟨front, c, rest, others, rfl, rfl, foreign⟩ := strays
  exact ⟨front, c, rest ++ back, others ++ more, by simp, by simp, foreign⟩

theorem replaceAll_strays (walled : data.Walled) {marker : Marker} (stands : marker.word <:+: text) :
    Strays text (replaceAll marker.word (data.text marker) text) := by
  obtain ⟨front, back, parts, replaced⟩ := replaceAll_first marker.word_filled stands (data.text marker)
  obtain ⟨c, more, here, foreign⟩ := walled marker
  obtain ⟨letters, word⟩ := marker.word_first
  rw [replaced, here]
  exact ⟨front, c, letters ++ back, more ++ _, by rw [parts, word]; simp, by simp; rfl, foreign⟩

theorem Strays.replaceAll (walled : data.Walled) (strays : Strays text other) (marker : Marker) :
    Strays text (replaceAll marker.word (data.text marker) other) := by
  obtain ⟨front, c, rest, others, rfl, rfl, foreign⟩ := strays
  rw [replaceAll_break marker.word_filled (foreign.word marker)]
  by_cases stands : marker.word <:+: front
  · have earlier := replaceAll_strays walled stands
    exact earlier.append ('_' :: rest) (c :: _)
  · rw [replaceAll_absent stands]
    exact ⟨front, c, rest, _, rfl, rfl, foreign⟩

theorem Strays.turns (walled : data.Walled) (strays : Strays text other) (markers : List Marker) :
    Strays text (turns data markers other) := by
  induction markers generalizing other with
  | nil => exact strays
  | cons marker markers ih => exact ih (strays.replaceAll walled marker)

theorem turns_strays (walled : data.Walled) {markers : List Marker} (member : marker ∈ markers)
    (stands : marker.word <:+: text) : Strays text (turns data markers text) := by
  induction markers with
  | nil => cases member
  | cons first markers ih =>
      by_cases here : first.word <:+: text
      · exact (replaceAll_strays walled here).turns walled markers
      · rw [turns, List.foldl_cons, replaceAll_absent here]
        rcases List.mem_cons.mp member with rfl | later
        · exact absurd stands here
        · exact ih later

theorem turns_kept_or_strays (walled : data.Walled) (markers : List Marker) (text : List Char) :
    turns data markers text = text ∨ Strays text (turns data markers text) := by
  by_cases stands : ∃ marker ∈ markers, marker.word <:+: text
  · obtain ⟨marker, member, here⟩ := stands
    exact .inr (turns_strays walled member here)
  · apply Or.inl
    apply turns_absent
    intro marker member here
    exact stands ⟨marker, member, here⟩

theorem turns_kept (walled : data.Walled) {markers : List Marker} :
    turns data markers text = text ↔ ∀ marker ∈ markers, ¬marker.word <:+: text := by
  constructor
  · intro kept marker member stands
    exact (turns_strays walled member stands).unlike kept
  · exact turns_absent

-- Texts that are kept or stray fill the pieces alike only when all of them are kept.
theorem filled_kept {fill kept : Marker → List Char} {pieces : List Piece}
    (each : ∀ marker, kept marker = fill marker ∨ Strays (fill marker) (kept marker))
    (same : filled kept pieces = filled fill pieces) : ∀ marker, .marker marker ∈ pieces → kept marker = fill marker := by
  induction pieces with
  | nil =>
      intro marker member
      cases member
  | cons piece pieces ih =>
      intro marker member
      cases piece with
      | plain text =>
          rcases List.mem_cons.mp member with here | later
          · cases here
          · exact ih (List.append_cancel_left same) marker later
      | marker other =>
          have parts : kept other ++ filled kept pieces = fill other ++ filled fill pieces := same
          rcases each other with equal | strays
          · rw [equal] at parts
            rcases List.mem_cons.mp member with here | later
            · cases here
              exact equal
            · exact ih (List.append_cancel_left parts) marker later
          · exact absurd parts (strays.append _ _).unlike

-- The script holds all data as they are exactly when no data hold a marker whose turn comes later.
theorem scriptText_kept (walled : data.Walled) : scriptText data = filled data.text script ↔
    ∀ marker, ∀ later ∈ Marker.later marker, ¬later.word <:+: data.text marker := by
  have places : ∀ marker : Marker, .marker marker ∈ script := by
    intro marker
    cases marker <;> simp [script, lineWith, plainLines]
  rw [scriptText_places]
  constructor
  · intro same marker
    have each := fun marker => turns_kept_or_strays walled (Marker.later marker) (data.text marker)
    exact (turns_kept walled).mp (filled_kept each same marker (places marker))
  · intro absent
    congr 1
    funext marker
    exact (turns_kept walled).mpr (absent marker)

end Straying

end Triage.Page
