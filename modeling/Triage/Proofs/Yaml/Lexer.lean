import Mathlib.Data.List.Basic
import Triage.Proofs.Yaml.Plain
import Triage.Yaml.Lexer

namespace Triage.Yaml
open Triage.Text

inductive Gives : Lexer → List Token → Prop where
  | stop (here : s.approach = .ok reached) (atEnd : reached.token? = .ok none) (closed : reached.endBlocks = .ok ended) :
      Gives s ended.tokens.reverse
  | step (here : s.approach = .ok reached) (word : reached.token? = .ok (some next))
      (shorter : next.rest.length < s.rest.length) (later : Gives next tokens) : Gives s tokens

-- Each step takes a cell, so that the fuel suffices.
theorem Gives.run (gives : Gives s tokens) (enough : s.rest.length < fuel) : Lexer.run fuel s = tokens := by
  induction gives generalizing fuel with
  | stop here atEnd closed =>
      obtain ⟨fuel, rfl⟩ : ∃ less, fuel = less + 1 := ⟨fuel - 1, by omega⟩
      rw [Lexer.run]
      simp only [here, atEnd, closed, bind, Except.bind, pure, Except.pure, if_true]
  | step here word shorter _ ih =>
      obtain ⟨fuel, rfl⟩ : ∃ less, fuel = less + 1 := ⟨fuel - 1, by omega⟩
      rw [Lexer.run]
      simp only [here, word, bind, Except.bind, pure, Except.pure, Bool.false_eq_true, if_false]
      exact ih (by omega)

theorem Gives.congr (gives : Gives s tokens) (same : s'.approach = s.approach) (more : s.rest.length ≤ s'.rest.length) :
    Gives s' tokens := by
  cases gives with
  | stop here atEnd closed => exact .stop (same.trans here) atEnd closed
  | step here word shorter later => exact .step (same.trans here) word (by omega) later

structure Opening (text : List Char) : Prop where
  solid : Solid text
  noComment : text.headD endMark ≠ '#'

theorem opening_cons (solid : c ≠ ' ') (inLine : isBreak c = false) (noComment : c ≠ '#') (text : List Char) :
    Opening (c :: text) := by
  refine ⟨?_, noComment⟩
  rintro _ _ ⟨⟩
  exact ⟨solid, inLine⟩

theorem Opening.peek (opening : Opening text) (spelled : Spells cells text) :
    peek cells ≠ '#' ∧ isBreak (peek cells) = false := by
  rw [spelled.peek]
  exact ⟨opening.noComment, opening.solid.inLine⟩

theorem toNextToken_here (inLine : isBreak (peek (afterSpaces cells)) = false)
    (noComment : peek (afterSpaces cells) ≠ '#') :
    Lexer.toNextToken cells = (false, afterSpaces cells) := by
  rw [Lexer.toNextToken]
  simp only [noComment, if_false, inLine, Bool.false_eq_true, dite_false]

theorem toNextToken_stays (spelled : Spells cells text) (opening : Opening text) :
    Lexer.toNextToken cells = (false, cells) := by
  have stays : afterSpaces cells = cells := by
    have first := spelled.peek
    cases cells with
    | nil => rfl
    | cons cell rest =>
        have char : cell.char = text.headD endMark := first
        have other : cell.char ≠ ' ' := by
          rw [char]
          cases text with
          | nil => decide
          | cons c text => exact (opening.solid c text rfl).1
        simp [afterSpaces, other]
  obtain ⟨noComment, inLine⟩ := opening.peek spelled
  have passed := @toNextToken_here cells
  rw [stays] at passed
  exact passed inLine noComment

theorem toNextToken_spaces (spelled : SpellsAt place cells (List.replicate count ' ' ++ text))
    (opening : Opening text) :
    ∃ after, Lexer.toNextToken cells = (false, after) ∧ SpellsAt (place + count) after text := by
  obtain ⟨onwards, _⟩ := spelled.afterSpaces opening.solid
  obtain ⟨noComment, inLine⟩ := opening.peek onwards.spells
  exact ⟨_, toNextToken_here inLine noComment, onwards⟩

theorem toNextToken_newLine (spelled : Spells cells (newLine indent ++ text)) (opening : Opening text) :
    ∃ after, Lexer.toNextToken cells = (true, after) ∧ SpellsAt indent after text := by
  obtain ⟨mid, taken, line⟩ := Spells.newLine spelled
  obtain ⟨after, passed, onwards⟩ := toNextToken_spaces line opening
  rw [Nat.zero_add] at onwards
  have first : peek cells = '\n' := spelled.peek
  have stays : afterSpaces cells = cells := by
    obtain ⟨cell, others, rfl, same, _⟩ := Spells.cons spelled
    simp [afterSpaces, same]
  have comment : ¬peek cells = '#' := by
    rw [first]
    decide
  have ends : isBreak (peek cells) = true := by
    rw [first]
    rfl
  refine ⟨after, ?_, onwards⟩
  rw [Lexer.toNextToken]
  simp only [stays, comment, if_false, ends, dite_true, taken, passed]

-- The state between two tokens, where no word is waiting to be a key.
def between (cells : List Cell) (tokens : List Token) (indents : List Nat) (keyAllowed : Bool) : Lexer :=
  ⟨cells, tokens, [none], indents, keyAllowed⟩

theorem approach_between (next : Lexer.toNextToken cells = (broken, after)) (tokens : List Token) (indents : List Nat)
    (keyAllowed : Bool) : (between cells tokens indents keyAllowed).approach =
      .ok ((between after tokens indents (keyAllowed || broken)).unwind (some (columnOf after))) := by
  rw [Lexer.approach]
  simp [next, between, Lexer.dropStale, Lexer.inFlow, Lexer.column, bind, Except.bind, pure, Except.pure]

def GivesAt (column : Nat) (text : List Char) (tokens : List Token) (indents : List Nat) (all : List Token) : Prop :=
  ∀ cells, SpellsAt column cells text → Gives (between cells tokens indents true) all

theorem toNextToken_length (cells : List Cell) : (Lexer.toNextToken cells).2.length ≤ cells.length := by
  have comment : ∀ rest : List Cell,
      (if peek rest = '#' then rest.dropWhile fun c => !isBreakOrEnd c.char else rest).length ≤ rest.length := by
    intro rest
    split
    · exact (List.dropWhile_sublist _).length_le
    · exact Nat.le_refl _
  fun_induction Lexer.toNextToken cells with
  | case1 cells spaces rest more ih =>
      have inner := takeBreak_length rest
      have outer : rest.length ≤ cells.length := Nat.le_trans (comment spaces) (afterSpaces_length cells)
      exact Nat.le_trans ih (Nat.le_trans inner outer)
  | case2 cells spaces rest more => exact Nat.le_trans (comment spaces) (afterSpaces_length cells)

theorem GivesAt.newLine (gives : GivesAt column text tokens indents all) (opening : Opening text)
    (spelled : Spells cells (Yaml.newLine column ++ text)) (keyAllowed : Bool) :
    Gives (between cells tokens indents keyAllowed) all := by
  obtain ⟨after, next, onwards⟩ := toNextToken_newLine spelled opening
  have here := toNextToken_stays onwards.spells opening
  have shorter := toNextToken_length cells
  rw [next] at shorter
  refine (gives after onwards).congr ?_ shorter
  rw [approach_between next, approach_between here, Bool.or_true, Bool.or_false]

theorem gives_space (opening : Opening text)
    (gives : ∀ after, SpellsAt (place + 1) after text → Gives (between after tokens indents keyAllowed) all)
    (spelled : SpellsAt place cells (' ' :: text)) : Gives (between cells tokens indents keyAllowed) all := by
  have spaces : SpellsAt place cells (List.replicate 1 ' ' ++ text) := spelled
  obtain ⟨after, next, onwards⟩ := toNextToken_spaces spaces opening
  have here := toNextToken_stays onwards.spells opening
  have shorter := toNextToken_length cells
  rw [next] at shorter
  refine (gives after onwards).congr ?_ shorter
  rw [approach_between next, approach_between here]

theorem unwind_between (cells : List Cell) (tokens : List Token) (indents : List Nat) (keyAllowed : Bool)
    (column : Nat) : (between cells tokens indents keyAllowed).unwind (some column) =
      between cells (List.replicate (indents.length - (indents.dropWhile (column < ·)).length) .blockEnd ++ tokens)
        (indents.dropWhile (column < ·)) keyAllowed := by
  simp [between, Lexer.unwind, Lexer.inFlow]

theorem GivesAt.blockEnd (gives : GivesAt column text (.blockEnd :: tokens) indents all) (opening : Opening text)
    (outside : column < indent) : GivesAt column text tokens (indent :: indents) all := by
  intro cells spelled
  have here := toNextToken_stays spelled.spells opening
  refine (gives cells spelled).congr ?_ (Nat.le_refl _)
  have bound := (List.dropWhile_sublist (fun inner => decide (column < inner)) (l := indents)).length_le
  have drops : (indent :: indents).dropWhile (fun inner => decide (column < inner)) =
      indents.dropWhile fun inner => decide (column < inner) := by
    simp [outside]
  rw [approach_between here, approach_between here, spelled.stands, unwind_between, unwind_between, drops,
    List.length_cons, Nat.succ_sub bound, List.replicate_succ']
  simp

def Inside (column : Nat) (indents : List Nat) : Prop := ∀ indent ∈ indents.head?, indent ≤ column

theorem approach_inside (spelled : SpellsAt column cells text) (opening : Opening text) (inside : Inside column indents)
    (tokens : List Token) (keyAllowed : Bool) :
    (between cells tokens indents keyAllowed).approach = .ok (between cells tokens indents keyAllowed) := by
  have kept : indents.dropWhile (fun indent => decide (column < indent)) = indents := by
    cases indents with
    | nil => rfl
    | cons indent indents =>
        have bound := inside indent rfl
        simp [bound]
  rw [approach_between (toNextToken_stays spelled.spells opening), spelled.stands, unwind_between, kept, Nat.sub_self,
    Bool.or_false]
  rfl

def tokenMarks : List Char :=
  [endMark, '%', '[', ']', '{', '}', ',', '*', '&', '!', '|', '>', '\x27', '"', '#', '@', '\x60']

structure StartsPlain (s : Lexer) : Prop where
  block : s.inFlow = false
  unmarked : ∀ mark ∈ tokenMarks, peek s.rest ≠ mark
  solid : isBlankCell (peek s.rest) = false
  tight : peek s.rest = '-' ∨ peek s.rest = '?' ∨ peek s.rest = ':' → isBlankCell (peekNext s.rest) = false
  inside : s.column ≠ 0 ∨ isDocumentEdge s.rest = false

theorem token?_plain (starts : StartsPlain s) : s.token? = some <$> s.plain := by
  obtain ⟨block, unmarked, solid, tight, inside⟩ := starts
  simp only [tokenMarks, List.mem_cons, List.not_mem_nil, or_false, forall_eq_or_imp, forall_eq] at unmarked
  obtain ⟨notEnd, percent, listStart, listEnd, mapStart, mapEnd, comma, star, ampersand, bang, bar, angle, single,
    double, hash, at', tick⟩ := unmarked
  have edge : ∀ mark, mark = '-' ∨ mark = '.' → (s.column == 0 && isDocumentMark mark s.rest) = false := by
    rcases inside with deep | unmarked
    · simp [deep]
    · obtain ⟨dash, dot⟩ := Bool.or_eq_false_iff.mp unmarked
      rintro mark (rfl | rfl) <;> simp [dash, dot]
  have dash := edge '-' (.inl rfl)
  have dot := edge '.' (.inr rfl)
  have loose : ∀ c, c = '-' ∨ c = '?' ∨ c = ':' →
      (decide (peek s.rest = c) && isBlankCell (peekNext s.rest)) = false := by
    intro c indicator
    by_cases same : peek s.rest = c
    · rw [tight (by rw [same]; exact indicator), Bool.and_false]
    · simp [same]
  have plain : s.startsPlain = true := by
    by_cases indicator : peek s.rest = '-' ∨ peek s.rest = '?' ∨ peek s.rest = ':'
    · have next := tight indicator
      rcases indicator with same | same | same <;> simp [Lexer.startsPlain, same, next, block]
    · rw [not_or, not_or] at indicator
      simp [Lexer.startsPlain, Lexer.indicators, solid, indicator, percent, listStart, listEnd, mapStart, mapEnd, comma,
        star, ampersand, bang, bar, angle, single, double, hash, at', tick]
  simp [Lexer.token?, notEnd, percent, listStart, listEnd, mapStart, mapEnd, comma, star, ampersand, bang, bar, angle,
    single, double, dash, dot, block, plain, loose]

theorem opening_word (word : isWord text = true) (behind : List Char) : Opening (text ++ behind) := by
  rw [isWord, Bool.and_eq_true, List.all_eq_true] at word
  cases text with
  | nil => cases word.1
  | cons c more =>
      have bounds := letter_bounds (word.2 c (List.mem_cons_self ..))
      have other : ∀ e : Char, e.toNat < 0x61 → c ≠ e := by
        rintro e small rfl
        omega
      have inLine := (Bool.or_eq_false_iff.mp (isBreakOrEnd_visible (c := c) (by omega))).2
      exact opening_cons (other ' ' (by decide)) inLine (other '#' (by decide)) _

-- A key either opens a block in its column, or stands in one that is open there.
inductive Enters (column : Nat) (tokens : List Token) : List Nat → List Token → List Nat → Prop where
  | opens (deeper : ∀ indent ∈ indents.head?, indent < column) :
      Enters column tokens indents (.mapStart :: tokens) (column :: indents)
  | stays : Enters column tokens (column :: indents) tokens (column :: indents)

theorem Enters.inside (enters : Enters column tokens indents tokens' indents') : Inside column indents := by
  cases enters with
  | opens deeper => exact fun indent member => Nat.le_of_lt (deeper indent member)
  | stays =>
      rintro _ ⟨⟩
      exact Nat.le_refl column

def behindWord (cells : List Cell) (word : List Char) (tokens : List Token) (indents : List Nat)
    (line column index : Nat) : Lexer :=
  ⟨cells, .scalar word true :: tokens,
    [some ⟨tokens.length, indents.head? == some column, line, column, index⟩], indents, false⟩

theorem token?_word (word : isWord text = true) (blank : isBlankCell d = true) (tokens : List Token)
    (indents : List Nat) (line column index : Nat) (behind : List Char) :
    (between (cellsFrom line column index (text ++ ':' :: d :: behind)) tokens indents true).token? =
      .ok (some (behindWord (cellsFrom line (column + text.length) (index + text.length) (':' :: d :: behind)) text
        tokens indents line column index)) := by
  obtain ⟨c, rest, cells, low, high⟩ := cellsFrom_word word line column index (':' :: d :: behind)
  have read := fun least => takePlain_key word blank least line column index behind
  generalize cellsFrom line (column + text.length) (index + text.length) (':' :: d :: behind) = after at read ⊢
  rw [cells] at read ⊢
  have other : ∀ e : Char, e.toNat < 0x61 ∨ 0x7A < e.toNat → c ≠ e := by
    rintro e outside rfl
    omega
  have starts : StartsPlain (between (⟨c, line, column, index⟩ :: rest) tokens indents true) := by
    have marks : ∀ mark ∈ tokenMarks, mark.toNat < 0x61 ∨ 0x7A < mark.toNat :=
      List.forall_iff_forall_mem.mp (by decide)
    refine ⟨rfl, fun mark member => other mark (marks mark member),
      isBlankCell_visible (c := c) (by omega) (other ' ' (by decide)), ?_, .inr ?_⟩
    · rintro (same | same | same) <;> exact absurd same (other _ (by decide))
    · exact isDocumentEdge_other rfl (other '-' (by decide)) (other '.' (by decide))
  rw [token?_plain starts]
  simp [Lexer.plain, Lexer.noteKey, Lexer.dropKey, between, Lexer.inFlow, behindWord, read, bind, Except.bind, pure,
    Except.pure]

-- A word is still waiting when the colon behind it is met.
theorem approach_behindWord (inside : Inside column indents) (deep : column ≤ column')
    (short : index' ≤ index + Lexer.keyLimit) (word : List Char) (tokens : List Token) (line : Nat) (after : List Cell) :
    (behindWord (⟨':', line, column', index'⟩ :: after) word tokens indents line column index).approach =
      .ok (behindWord (⟨':', line, column', index'⟩ :: after) word tokens indents line column index) := by
  have here : afterSpaces (⟨':', line, column', index'⟩ :: after) = ⟨':', line, column', index'⟩ :: after := rfl
  have stays : Lexer.toNextToken (⟨':', line, column', index'⟩ :: after) =
      (false, ⟨':', line, column', index'⟩ :: after) := by
    rw [toNextToken_here (by rw [here]; rfl) (by rw [here]; exact (by decide : ':' ≠ '#')), here]
  have kept : indents.dropWhile (fun indent => decide (column' < indent)) = indents := by
    cases indents with
    | nil => rfl
    | cons indent indents =>
        have bound : indent ≤ column := inside indent rfl
        have notDeeper : ¬column' < indent := by omega
        simp [notDeeper]
  have fresh : ¬index + Lexer.keyLimit < index' := by omega
  rw [Lexer.approach]
  simp [behindWord, stays, Lexer.dropStale, Lexer.isStale, fresh, Lexer.unwind, Lexer.inFlow, Lexer.column, columnOf,
    kept, bind, Except.bind, pure, Except.pure]

theorem token?_colon (loose : isBlankCell (peek after) = true) (enters : Enters column tokens indents tokens' indents')
    (word : List Char) (line column' index index' : Nat) :
    (behindWord (⟨':', line, column', index'⟩ :: after) word tokens indents line column index).token? =
      .ok (some (between after (.value :: .scalar word true :: .key :: tokens') indents' false)) := by
  have first : peek (⟨':', line, column', index'⟩ :: after) = ':' := rfl
  have next : isBlankCell (peekNext (⟨':', line, column', index'⟩ :: after)) = true := loose
  have dash := isDocumentMark_other first (by decide : ':' ≠ '-')
  have dot := isDocumentMark_other first (by decide : ':' ≠ '.')
  cases enters with
  | opens deeper =>
      have opens : indents.head?.all (fun indent => decide (indent < column)) = true := by
        cases indents with
        | nil => rfl
        | cons indent indents => exact decide_eq_true (deeper indent rfl)
      simp [Lexer.token?, behindWord, first, next, dash, dot, endMark, Lexer.colon, Lexer.inFlow, Lexer.opensBlock,
        Lexer.putAt, between, opens]
  | stays =>
      simp [Lexer.token?, behindWord, first, next, dash, dot, endMark, Lexer.colon, Lexer.inFlow, Lexer.opensBlock,
        Lexer.putAt, between]

theorem gives_colon (blank : isBlankCell d = true) (short : text.length ≤ Lexer.keyLimit)
    (enters : Enters column tokens indents tokens' indents')
    (gives : ∀ after, SpellsAt (column + text.length + 1) after (d :: behind) →
      Gives (between after (.value :: .scalar text true :: .key :: tokens') indents' false) all) :
    Gives (behindWord (cellsFrom line (column + text.length) (index + text.length) (':' :: d :: behind)) text tokens
      indents line column index) all := by
  rw [cellsFrom_steady (by decide)]
  have spelled : SpellsAt (column + text.length + 1)
      (cellsFrom line (column + text.length + 1) (index + text.length + 1) (d :: behind)) (d :: behind) :=
    ⟨line, index + text.length + 1, rfl⟩
  generalize cellsFrom line (column + text.length + 1) (index + text.length + 1) (d :: behind) = after at spelled ⊢
  have loose : isBlankCell (peek after) = true := by
    rw [spelled.spells.peek]
    exact blank
  refine .step (approach_behindWord enters.inside (by omega) (by omega) text tokens line after)
    (token?_colon loose enters text line _ index _) ?_ (gives after spelled)
  simp [behindWord, between]

theorem GivesAt.key (word : isWord text = true) (short : text.length ≤ Lexer.keyLimit) (blank : isBlankCell d = true)
    (enters : Enters column tokens indents tokens' indents')
    (gives : ∀ after, SpellsAt (column + text.length + 1) after (d :: behind) →
      Gives (between after (.value :: .scalar text true :: .key :: tokens') indents' false) all) :
    GivesAt column (text ++ ':' :: d :: behind) tokens indents all := by
  rintro cells ⟨line, index, rfl⟩
  have spelled : SpellsAt column _ (text ++ ':' :: d :: behind) := ⟨line, index, rfl⟩
  have here := approach_inside spelled (opening_word word _) enters.inside tokens true
  have later : Gives (behindWord _ text tokens indents line column index) all := gives_colon blank short enters gives
  have shorter : (cellsFrom line (column + text.length) (index + text.length) (':' :: d :: behind)).length <
      (cellsFrom line column index (text ++ ':' :: d :: behind)).length := by
    have filled : 0 < text.length := by
      rw [isWord, Bool.and_eq_true] at word
      cases text with
      | nil => cases word.1
      | cons c more => exact Nat.succ_pos _
    rw [Spells.length ⟨_, _, _, rfl⟩, Spells.length ⟨_, _, _, rfl⟩, List.length_append]
    omega
  exact .step here (token?_word word blank tokens indents line column index behind) shorter later

end Triage.Yaml
