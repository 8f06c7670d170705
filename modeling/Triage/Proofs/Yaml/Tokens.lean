import Triage.Proofs.Yaml.Lexer
import Triage.Proofs.Yaml.Single
import Triage.Proofs.Yaml.Writer

namespace Triage.Yaml
open Triage.Text

structure Fresh (text : List Char) : Prop extends Opening text where
  unmarked : ∀ cells, Spells cells text → isDocumentEdge cells = false

theorem Fresh.follows (fresh : Fresh text) (outside : column < least) : Follows least column text := by
  refine ⟨outside, fresh.solid, fun cells spelled => ?_⟩
  cases column with
  | zero => exact fresh.unmarked cells spelled
  | succ column => exact unmarked_indented (Nat.succ_pos column) spelled

theorem fresh_nil : Fresh [] :=
  ⟨⟨(by rintro c more ⟨⟩), by decide⟩, by rintro cells ⟨line, column, index, rfl⟩; rfl⟩

theorem fresh_word (word : isWord text = true) (behind : List Char) : Fresh (text ++ behind) := by
  refine ⟨opening_word word behind, ?_⟩
  rintro cells ⟨line, column, index, rfl⟩
  obtain ⟨c, rest, cells, low, high⟩ := cellsFrom_word word line column index behind
  have other : ∀ e : Char, e.toNat < 0x61 → c ≠ e := by
    rintro e small rfl
    omega
  rw [cells]
  exact isDocumentEdge_other rfl (other '-' (by decide)) (other '.' (by decide))

theorem fresh_item (behind : List Char) : Fresh ('-' :: ' ' :: behind) := by
  refine ⟨opening_cons (by decide) rfl (by decide) _, fun cells spelled => ?_⟩
  obtain ⟨first, rest, rfl, char, spelled⟩ := Spells.cons spelled
  obtain ⟨second, rest, rfl, space, _⟩ := Spells.cons spelled
  simp [isDocumentEdge, isDocumentMark, charsOf, char, space]

section
variable {cells : List Cell} {next text : List Char} {tokens all : List Token} {indents : List Nat}

theorem Bare.visible (bare : Bare (c :: text)) : 0x20 ≤ c.toNat ∧ c.toNat ≤ 0x7E :=
  bare.tail.visible c (List.mem_cons_self ..)

theorem Bare.opening (bare : Bare text) (folds : Bool) (indent start : Nat) (behind : List Char) :
    Opening (writePlain folds indent start false text ++ behind) := by
  obtain ⟨c, more, rfl, solid⟩ := bare.starts
  rw [writePlain_solid folds indent start false solid]
  exact opening_cons solid (Bool.or_eq_false_iff.mp (isBreakOrEnd_visible bare.visible)).2 bare.noComment _

theorem Bare.startsPlain (bare : Bare (c :: text)) (solid : c ≠ ' ') (deep : 0 < place)
    (spelled : SpellsAt place cells (writePlain folds indent start false (c :: text) ++ behind)) (tokens : List Token)
    (indents : List Nat) (keyAllowed : Bool) : StartsPlain (between cells tokens indents keyAllowed) := by
  have stands := spelled.stands
  rw [writePlain_solid folds indent start false solid] at spelled
  obtain ⟨cell, rest, rfl, rfl, later⟩ := Spells.cons spelled.spells
  obtain ⟨noMark, noStart⟩ := Bool.or_eq_false_iff.mp bare.indicates
  refine ⟨rfl, ?_, isBlankCell_visible bare.visible solid, fun indicator => ?_, .inl ?_⟩
  · have known : ∀ mark ∈ tokenMarks, mark = endMark ∨ startIndicators.contains mark = true :=
      List.forall_iff_forall_mem.mp (by decide)
    rintro mark member (same : cell.char = mark)
    rcases known mark member with ends | starts
    · have visible := bare.visible
      rw [same, ends] at visible
      exact absurd visible.1 (by decide)
    · rw [same, starts] at noMark
      cases noMark
  · have indicator : (cell.char == '?' || cell.char == ':' || cell.char == '-') = true := by
      rcases indicator with same | same | same <;>
        · replace same : cell.char = _ := same
          rw [same]
          decide
    rw [indicator, Bool.true_and] at noStart
    cases text with
    | nil => cases noStart
    | cons d text =>
        have other : d ≠ ' ' := by
          rintro rfl
          cases noStart
        have visible := bare.tail.visible d (List.mem_cons_of_mem _ (List.mem_cons_self ..))
        have next : peek rest = d := by
          rw [writePlain_solid folds indent (start + 1) false other] at later
          exact later.peek
        have shown : isBlankCell (peek rest) = false := by
          rw [next]
          exact isBlankCell_visible visible other
        exact shown
  · exact Nat.ne_of_gt (lt_of_lt_of_eq deep stands.symm)

theorem gives_plain (bare : Bare text) (outside : column ≤ key) (fresh : Fresh next) (deep : key < place)
    (spelled : SpellsAt place cells (writePlain folds (key + indentWidth) start false text ++ (newLine column ++ next)))
    (gives : GivesAt column next (.scalar text true :: tokens) (key :: indents) all) :
    Gives (between cells tokens (key :: indents) false) all := by
  obtain ⟨after, taken, onwards⟩ := takePlain_writePlain bare (fresh.follows (Nat.lt_succ_of_le outside))
    (show key + 1 ≤ key + indentWidth by simp [indentWidth]) folds start deep spelled
  obtain ⟨c, more, rfl, solid⟩ := bare.starts
  have starts := bare.startsPlain solid (Nat.zero_lt_of_lt deep) spelled tokens (key :: indents) false
  have inside : Inside place (key :: indents) := by
    rintro _ ⟨⟩
    exact Nat.le_of_lt deep
  have here := approach_inside spelled (bare.opening folds _ start _) inside tokens false
  have word : (between cells tokens (key :: indents) false).token? =
      .ok (some (between after (.scalar (c :: more) true :: tokens) (key :: indents) true)) := by
    rw [token?_plain starts]
    simp [Lexer.plain, Lexer.noteKey, between, Lexer.inFlow, taken, bind, Except.bind, pure, Except.pure]
  refine .step here word ?_ (gives after onwards)
  have whole := spelled.spells.length
  have part := onwards.spells.length
  rw [List.length_append, List.length_append] at whole
  simp [between, newLine] at whole ⊢
  omega

theorem gives_quoted (opens : Opening (mark :: written ++ mark :: rest))
    (token : ∀ s : Lexer, peek s.rest = mark → s.token? = some <$> s.word (Lexer.takeScalar take))
    (taken : ∀ cells, Spells cells (written ++ mark :: rest) →
      ∃ after, take cells = .ok (text, after) ∧ Spells after rest)
    (deep : Inside place indents) (spelled : SpellsAt place cells (mark :: written ++ mark :: rest))
    (gives : ∀ after, Spells after rest → Gives (between after (.scalar text false :: tokens) indents false) all) :
    Gives (between cells tokens indents false) all := by
  have here := approach_inside spelled opens deep tokens false
  have whole := spelled.spells.length
  obtain ⟨cell, inner, rfl, char, later⟩ := Spells.cons spelled.spells
  obtain ⟨after, taken, onwards⟩ := taken inner later
  have word : (between (cell :: inner) tokens indents false).token? =
      .ok (some (between after (.scalar text false :: tokens) indents false)) := by
    rw [token (between (cell :: inner) tokens indents false) char]
    simp [Lexer.word, Lexer.noteKey, between, Lexer.takeScalar, taken, bind, Except.bind, pure, Except.pure, Except.map]
  refine .step here word ?_ (gives after onwards)
  have part := onwards.length
  rw [List.length_append] at whole
  simp [between] at whole ⊢
  omega

theorem token?_single (s : Lexer) (first : peek s.rest = '\x27') :
    s.token? = some <$> s.word (Lexer.takeScalar takeSingle) := by
  have dash : isDocumentMark '-' _ = false := isDocumentMark_other first (by decide)
  have dot : isDocumentMark '.' _ = false := isDocumentMark_other first (by decide)
  simp [Lexer.token?, first, dash, dot, endMark]

theorem token?_double (s : Lexer) (first : peek s.rest = '"') :
    s.token? = some <$> s.word (Lexer.takeScalar takeDouble) := by
  have dash : isDocumentMark '-' _ = false := isDocumentMark_other first (by decide)
  have dot : isDocumentMark '.' _ = false := isDocumentMark_other first (by decide)
  simp [Lexer.token?, first, dash, dot, endMark]

theorem gives_text (tame : foldsWell (key + indentWidth) text = true) (outside : column ≤ key) (fresh : Fresh next)
    (deep : key < place)
    (spelled : SpellsAt place cells (writeText true (key + indentWidth) start text ++ (newLine column ++ next)))
    (gives : GivesAt column next (.scalar text (isPlain text) :: tokens) (key :: indents) all) :
    Gives (between cells tokens (key :: indents) false) all := by
  have inside : Inside place (key :: indents) := by
    rintro _ ⟨⟩
    exact Nat.le_of_lt deep
  rw [writeText, Style.ofText] at spelled
  by_cases plain : isPlain text = true
  · rw [if_pos plain] at spelled
    rw [plain] at gives
    exact gives_plain (isPlain_bare plain) outside fresh deep spelled gives
  · rw [if_neg plain] at spelled
    rw [Bool.not_eq_true] at plain
    rw [plain] at gives
    have onwards : ∀ after, Spells after (newLine column ++ next) →
        Gives (between after (.scalar text false :: tokens) (key :: indents) false) all :=
      fun after spelled => gives.newLine fresh.toOpening spelled false
    by_cases single : isSingle text = true
    · rw [if_pos single] at spelled
      have marked : SpellsAt place cells
          ('\x27' :: writeSingle true (key + indentWidth) (start + 1) true false false text ++
            '\x27' :: (newLine column ++ next)) := by simpa using spelled
      refine gives_quoted (opening_cons (by decide) rfl (by decide) _) token?_single (fun cells spelled => ?_) inside
        marked onwards
      exact readsSingle true (Nat.succ_pos _) text single _ _ _ (by simp [newLine]) spelled
    · rw [if_neg single] at spelled
      have marked : SpellsAt place cells ('"' :: writeDouble true (key + indentWidth) (start + 1) true false text ++
          '"' :: (newLine column ++ next)) := by simpa using spelled
      refine gives_quoted (opening_cons (by decide) rfl (by decide) _) token?_double (fun cells spelled => ?_) inside
        marked onwards
      have double : Style.ofText text = .double := by rw [Style.ofText, plain, if_neg (by decide), if_neg single]
      have tame : breaksWell (key + indentWidth) text.tail = true := by simpa [foldsWell, double] using tame
      exact readsDouble true (Nat.succ_pos _) true text tame _ _ _ _ spelled

-- A value in a field whose key starts in a column: it starts with a blank behind the colon, and its tokens
-- are read from what is written there, up to a line that starts no deeper than the key.
structure Lexes (key : Nat) (node : Node) : Prop where
  starts : ∀ start, ∃ d more, writeAfter true false key start node = d :: more ∧ isBlankCell d = true
  gives : ∀ column start place next tokens indents all cells, column ≤ key → Fresh next → key < place →
    SpellsAt place cells (writeAfter true false key start node ++ (newLine column ++ next)) →
      GivesAt column next (node.tokens.reverse ++ tokens) (key :: indents) all →
        Gives (between cells tokens (key :: indents) false) all

theorem givesAt_field (name : Node.isName word = true) (lexes : Lexes column value) (outside : below ≤ column)
    (fresh : Fresh next) (enters : Enters column tokens indents tokens' (column :: indents'))
    (gives : GivesAt below next (value.tokens.reverse ++ .value :: .scalar word true :: .key :: tokens')
      (column :: indents') all) :
    GivesAt column
      (word ++ ':' :: writeAfter true false column (column + word.length + 2) value ++ (newLine below ++ next))
      tokens indents all := by
  obtain ⟨isWord, _, simple⟩ := Node.isName_parts name
  obtain ⟨d, more, written, blank⟩ := lexes.starts (column + word.length + 2)
  have short : word.length ≤ Lexer.keyLimit := by
    simp only [isSimpleKey, Bool.and_eq_true, decide_eq_true_eq] at simple
    have bound := simple.1.1
    simp only [keyLength, keyLimit, Lexer.keyLimit] at bound ⊢
    omega
  rw [written, List.append_assoc, List.cons_append, List.cons_append]
  refine GivesAt.key isWord short blank enters fun after spelled => ?_
  refine lexes.gives _ (column + word.length + 2) (column + word.length + 1) _ _ _ _ _ outside fresh (by omega) ?_ gives
  rw [written]
  exact spelled

variable {fields : List (List Char × Node)} {items : List (List (List Char × Node))}

theorem fresh_fields (column : Nat) (labelled : Node.Labelled fields) (behind : List Char) :
    Fresh (joinLines column (writeFields column (Node.pairs fields)) ++ behind) := by
  cases fields with
  | nil => exact absurd rfl labelled.filled
  | cons field fields =>
      obtain ⟨word, value⟩ := field
      obtain ⟨name, _⟩ := List.forall_mem_cons.mp labelled.names
      rw [writeFields_pairs name]
      obtain ⟨more, joined⟩ := joinLines_first column _ (writeFields column (Node.pairs fields))
      rw [joined, List.append_assoc, List.append_assoc]
      exact fresh_word (Node.isName_parts name).1 _

theorem givesAt_fields (labelled : Node.Labelled fields) (lexes : ∀ field ∈ fields, Lexes column field.2)
    (outside : below ≤ column) (fresh : Fresh next) (enters : Enters column tokens indents tokens' (column :: indents'))
    (gives : GivesAt below next ((Node.fieldTokens (Node.pairs fields)).reverse ++ tokens') (column :: indents') all) :
    GivesAt column (joinLines column (writeFields column (Node.pairs fields)) ++ (newLine below ++ next)) tokens indents
      all := by
  induction fields generalizing tokens indents tokens' with
  | nil => exact absurd rfl labelled.filled
  | cons field fields ih =>
      obtain ⟨word, value⟩ := field
      obtain ⟨name, names⟩ := List.forall_mem_cons.mp labelled.names
      obtain ⟨lex, lexes⟩ := List.forall_mem_cons.mp lexes
      have plain := (Node.isName_parts name).2.1
      have parts : (Node.fieldTokens (Node.pairs ((word, value) :: fields))).reverse ++ tokens' =
          (Node.fieldTokens (Node.pairs fields)).reverse ++
            (value.tokens.reverse ++ .value :: .scalar word true :: .key :: tokens') := by
        simp [Node.pairs, Node.fieldTokens, Node.tokens, plain]
      rw [parts] at gives
      rw [writeFields_pairs name]
      cases fields with
      | nil => exact givesAt_field name lex outside fresh enters gives
      | cons other fields =>
          have others : Node.Labelled (other :: fields) := ⟨List.cons_ne_nil _ _, names⟩
          have onwards := ih others lexes .stays gives
          have fresh := fresh_fields column others (newLine below ++ next)
          obtain ⟨line, lines, first⟩ :
              ∃ line lines, writeFields column (Node.pairs (other :: fields)) = line :: lines := ⟨_, _, rfl⟩
          rw [first] at onwards fresh ⊢
          have parts : ∀ front, joinLines column (front :: line :: lines) ++ (newLine below ++ next) =
              front ++ (newLine column ++ (joinLines column (line :: lines) ++ (newLine below ++ next))) := by
            simp [joinLines]
          rw [parts]
          exact givesAt_field name lex (Nat.le_refl column) fresh enters onwards

theorem opening_text (folds : Bool) (indent start : Nat) (text behind : List Char) :
    Opening (writeText folds indent start text ++ behind) := by
  rw [writeText]
  cases style : Style.ofText text with
  | plain =>
      have plain : isPlain text = true := by
        rw [Style.ofText] at style
        split at style
        · assumption
        · split at style <;> cases style
      exact (isPlain_bare plain).opening folds indent start behind
  | single => exact opening_cons (by decide) rfl (by decide) _
  | double => exact opening_cons (by decide) rfl (by decide) _

theorem lexes_text (tame : foldsWell (key + indentWidth) text = true) : Lexes key (.scalar .text text) := by
  have written : ∀ start, writeAfter true false key start (.scalar .text text) =
      ' ' :: writeText true (key + indentWidth) start text := fun start => by simp [writeAfter, writeScalar]
  refine ⟨fun start => ⟨_, _, written start, rfl⟩, ?_⟩
  intro column start place next tokens indents all cells outside fresh deep spelled gives
  rw [written] at spelled
  exact gives_space (opening_text true _ start text _)
    (fun after spelled => gives_text tame outside fresh (Nat.lt_succ_of_lt deep) spelled gives) spelled

theorem bare_truth (b : Bool) : Bare (if b then "true" else "false").toList := by
  have visible : ∀ c ∈ (if b then "true" else "false").toList, 0x20 ≤ c.toNat ∧ c.toNat ≤ 0x7E := by
    cases b <;> exact List.forall_iff_forall_mem.mp (by decide)
  refine ⟨⟨visible, ?_, ?_⟩, ?_, ?_⟩
  · cases b <;> decide
  · cases b <;> decide
  · cases b <;> decide
  · cases b <;> exact ⟨_, _, rfl, by decide⟩

theorem lexes_truth (b : Bool) : Lexes key (.truth b) := by
  refine ⟨fun start => ⟨_, _, rfl, rfl⟩, ?_⟩
  intro column start place next tokens indents all cells outside fresh deep spelled gives
  have bare := bare_truth b
  have opening := bare.opening false (key + indentWidth) start (newLine column ++ next)
  have written : writeAfter true false key start (.truth b) ++ (newLine column ++ next) = ' ' ::
      (writePlain false (key + indentWidth) start false (if b then "true" else "false").toList ++
        (newLine column ++ next)) := by
    rw [writePlain_whole]
    rfl
  rw [written] at spelled
  exact gives_space opening
    (fun after spelled => gives_plain bare outside fresh (Nat.lt_succ_of_lt deep) spelled gives) spelled

-- A record opens a block, which ends before what stands no deeper than the record's key.
theorem givesAt_record (labelled : Node.Labelled fields) (lexes : ∀ field ∈ fields, Lexes (key + indentWidth) field.2)
    (outside : below ≤ key) (fresh : Fresh next)
    (gives : GivesAt below next ((Node.record fields).tokens.reverse ++ tokens) (key :: indents) all) :
    GivesAt (key + indentWidth)
      (joinLines (key + indentWidth) (writeFields (key + indentWidth) (Node.pairs fields)) ++ (newLine below ++ next))
      tokens (key :: indents) all := by
  have deeper : key < key + indentWidth := Nat.lt_add_of_pos_right (by decide)
  have enters : Enters (key + indentWidth) tokens (key :: indents) (.mapStart :: tokens)
      ((key + indentWidth) :: key :: indents) := by
    refine .opens ?_
    rintro _ ⟨⟩
    exact deeper
  refine givesAt_fields labelled lexes (by omega) fresh enters ?_
  refine GivesAt.blockEnd ?_ fresh.toOpening (Nat.lt_of_le_of_lt outside deeper)
  rw [Node.tokens_record labelled.filled] at gives
  simpa using gives

theorem lexes_record (labelled : Node.Labelled fields)
    (lexes : ∀ field ∈ fields, Lexes (key + indentWidth) field.2) : Lexes key (.record fields) := by
  refine ⟨fun start => ⟨_, _, writeAfter_record labelled.filled key start, rfl⟩, ?_⟩
  intro column start place next tokens indents all cells outside fresh _ spelled gives
  rw [writeAfter_record labelled.filled, List.append_assoc] at spelled
  exact (givesAt_record labelled lexes outside fresh gives).newLine (fresh_fields _ labelled _).toOpening
    spelled.spells false

theorem token?_item (onLine : cell.column = column) (dash : cell.char = '-') (space : peek rest = ' ')
    (tokens : List Token) (indents : List Nat) :
    (between (cell :: rest) tokens (column :: indents) true).token? =
      .ok (some (between rest (.item :: tokens) (column :: indents) true)) := by
  have edge : isDocumentMark '-' (cell :: rest) = false ∧ isDocumentMark '.' (cell :: rest) = false := by
    cases rest with
    | nil => simp [isDocumentMark, charsOf]
    | cons second rest =>
        replace space : second.char = ' ' := space
        simp [isDocumentMark, charsOf, dash, space]
  have loose : isBlankCell (peekNext (cell :: rest)) = true := by
    rw [peekNext, List.drop_one, List.tail_cons, space]
    rfl
  have first : peek (cell :: rest) = '-' := dash
  have inside : ¬column < cell.column := by omega
  simp [Lexer.token?, between, first, loose, edge, endMark, Lexer.marked, Lexer.inFlow, Lexer.openBlock,
    Lexer.opensBlock, Lexer.column, columnOf, inside, Lexer.dropKey, Lexer.skip, Lexer.push, bind, Except.bind, pure, Except.pure]

theorem givesAt_item (labelled : Node.Labelled fields)
    (lexes : ∀ field ∈ fields, Lexes (column + indentWidth) field.2) (outside : below ≤ column) (fresh : Fresh next)
    (gives : GivesAt below next ((Node.record fields).tokens.reverse ++ .item :: tokens) (column :: indents) all) :
    GivesAt column
      ('-' :: writeAfter false true column (column + indentWidth) (.record fields) ++ (newLine below ++ next))
      tokens (column :: indents) all := by
  rw [writeAfter_item labelled.filled]
  intro cells spelled
  have inside : Inside column (column :: indents) := by
    rintro _ ⟨⟩
    exact Nat.le_refl column
  have here := approach_inside spelled (fresh_item _).toOpening inside tokens true
  obtain ⟨cell, rest, rfl, dash, onLine, later⟩ := SpellsAt.cons spelled (by decide)
  refine .step here (token?_item onLine dash later.spells.peek tokens indents) (Nat.lt_succ_self _) ?_
  exact gives_space (fresh_fields _ labelled _).toOpening
    (fun after onwards => givesAt_record labelled lexes outside fresh gives after
      (by simpa [Nat.add_assoc, indentWidth] using onwards)) later

theorem fresh_items (column : Nat) (some : items ≠ []) (labelled : ∀ item ∈ items, Node.Labelled item)
    (behind : List Char) :
    Fresh (joinLines column (writeItems column (items.map .record)) ++ behind) := by
  cases items with
  | nil => exact absurd rfl some
  | cons item items =>
      obtain ⟨here, _⟩ := List.forall_mem_cons.mp labelled
      rw [List.map_cons, writeItems, writeAfter_item here.filled]
      obtain ⟨more, joined⟩ := joinLines_first column _ _
      rw [joined, List.append_assoc]
      exact fresh_item _

theorem givesAt_items (some : items ≠ []) (labelled : ∀ item ∈ items, Node.Labelled item)
    (lexes : ∀ item ∈ items, ∀ field ∈ item, Lexes (column + indentWidth) field.2) (outside : below ≤ column)
    (fresh : Fresh next)
    (gives : GivesAt below next ((Node.itemTokens (items.map .record)).reverse ++ tokens) (column :: indents) all) :
    GivesAt column (joinLines column (writeItems column (items.map .record)) ++ (newLine below ++ next)) tokens
      (column :: indents) all := by
  induction items generalizing tokens with
  | nil => exact absurd rfl some
  | cons item items ih =>
      obtain ⟨labelledHere, labelled⟩ := List.forall_mem_cons.mp labelled
      obtain ⟨lexesHere, lexes⟩ := List.forall_mem_cons.mp lexes
      have parts : (Node.itemTokens ((item :: items).map .record)).reverse ++ tokens =
          (Node.itemTokens (items.map .record)).reverse ++ ((Node.record item).tokens.reverse ++ .item :: tokens) := by
        simp [Node.itemTokens]
      rw [parts] at gives
      cases items with
      | nil => exact givesAt_item labelledHere lexesHere outside fresh gives
      | cons other items =>
          have onwards := ih (List.cons_ne_nil _ _) labelled lexes gives
          have freshLine := fresh_items column (List.cons_ne_nil _ _) labelled (newLine below ++ next)
          have split : joinLines column (writeItems column ((item :: other :: items).map .record)) ++
              (newLine below ++ next) =
            '-' :: writeAfter false true column (column + indentWidth) (.record item) ++ (newLine column ++
              (joinLines column (writeItems column ((other :: items).map .record)) ++ (newLine below ++ next))) := by
            simp [writeItems, joinLines]
          rw [split]
          exact givesAt_item labelledHere lexesHere (Nat.le_refl column) freshLine onwards

theorem gives_brackets (deep : Inside place indents) (spelled : SpellsAt place cells ('[' :: ']' :: rest))
    (gives : ∀ after, Spells after rest →
      Gives (between after (.flowListEnd :: .flowListStart :: tokens) indents false) all) :
    Gives (between cells tokens indents false) all := by
  have here := approach_inside spelled (opening_cons (by decide) rfl (by decide) _) deep tokens false
  obtain ⟨first, inner, rfl, opening, later⟩ := Spells.cons spelled.spells
  have stays := toNextToken_stays later (opening_cons (by decide) rfl (by decide) _)
  obtain ⟨second, after, rfl, closing, onwards⟩ := Spells.cons later
  have start : (between (first :: second :: after) tokens indents false).token? =
      .ok (some ⟨second :: after, .flowListStart :: tokens, [none, none], indents, true⟩) := by
    have peeked : peek (first :: second :: after) = '[' := opening
    have dash : isDocumentMark '-' _ = false := isDocumentMark_other peeked (by decide)
    have dot : isDocumentMark '.' _ = false := isDocumentMark_other peeked (by decide)
    simp [Lexer.token?, between, peeked, dash, dot, endMark, Lexer.openBracket, Lexer.noteKey, Lexer.skip, Lexer.push,
      bind, Except.bind, pure, Except.pure]
  have inside : Lexer.approach ⟨second :: after, .flowListStart :: tokens, [none, none], indents, true⟩ =
      .ok ⟨second :: after, .flowListStart :: tokens, [none, none], indents, true⟩ := by
    simp [Lexer.approach, stays, Lexer.dropStale, Lexer.unwind, Lexer.inFlow, bind, Except.bind, pure, Except.pure]
  have stop : Lexer.token? ⟨second :: after, .flowListStart :: tokens, [none, none], indents, true⟩ =
      .ok (some (between after (.flowListEnd :: .flowListStart :: tokens) indents false)) := by
    have peeked : peek (second :: after) = ']' := closing
    have dash : isDocumentMark '-' _ = false := isDocumentMark_other peeked (by decide)
    have dot : isDocumentMark '.' _ = false := isDocumentMark_other peeked (by decide)
    simp [Lexer.token?, between, peeked, dash, dot, endMark, Lexer.closeBracket, Lexer.inFlow, Lexer.dropKey, Lexer.skip,
      Lexer.push, bind, Except.bind, pure, Except.pure]
  exact .step here start (Nat.lt_succ_self _) (.step inside stop (Nat.lt_succ_self _) (gives after onwards))

theorem lexes_list (labelled : ∀ item ∈ items, Node.Labelled item)
    (lexes : ∀ item ∈ items, ∀ field ∈ item, Lexes (key + indentWidth) field.2) :
    Lexes key (.list .list (items.map .record)) := by
  cases items with
  | nil =>
      refine ⟨fun start => ⟨_, _, rfl, rfl⟩, ?_⟩
      intro column start place next tokens indents all cells outside fresh deep spelled gives
      have inside : Inside (place + 1) (key :: indents) := by
        rintro _ ⟨⟩
        omega
      exact gives_space (opening_cons (by decide) rfl (by decide) _)
        (fun after onwards => gives_brackets inside onwards fun after onwards =>
          GivesAt.newLine gives fresh.toOpening onwards false) spelled
  | cons item items =>
      have some : item :: items ≠ [] := List.cons_ne_nil _ _
      refine ⟨fun start => ⟨_, _, writeAfter_list some key start, rfl⟩, ?_⟩
      intro column start place next tokens indents all cells outside fresh _ spelled gives
      rw [writeAfter_list some, List.append_assoc] at spelled
      exact GivesAt.newLine (givesAt_items some labelled lexes outside fresh gives)
        (fresh_items key some labelled _).toOpening spelled.spells false

theorem givesAt_end (tokens : List Token) : GivesAt 0 [] tokens [0] (tokens.reverse ++ [.blockEnd]) := by
  intro cells spelled
  have inside : Inside 0 [0] := by
    rintro _ ⟨⟩
    exact Nat.le_refl 0
  have here := approach_inside spelled fresh_nil.toOpening inside tokens true
  have last : peek cells = endMark := spelled.spells.peek
  have atEnd : (between cells tokens [0] true).token? = .ok none := by
    simp [Lexer.token?, between, last]
  have closed : (between cells tokens [0] true).endBlocks = .ok (between cells (.blockEnd :: tokens) [] false) := by
    simp [Lexer.endBlocks, between, Lexer.unwind, Lexer.inFlow, Lexer.dropKey, bind, Except.bind, pure, Except.pure]
  have ends := Gives.stop here atEnd closed
  simpa [between] using ends

theorem Node.Carried.lexes (carried : Node.Carried column node) : Lexes column node := by
  induction carried with
  | text tame => exact lexes_text tame
  | truth b => exact lexes_truth b
  | record labelled _ ih => exact lexes_record labelled ih
  | list labelled _ ih => exact lexes_list labelled ih

theorem cellsOf_ordinary (ordinary : text.all isOrdinary = true) : cellsOf text = .ok (cellsFrom 0 0 0 text) := by
  rw [List.all_eq_true] at ordinary
  have allowed : text.all isAllowed = true :=
    List.all_eq_true.mpr fun c member => ordinary_isAllowed (ordinary c member)
  have unmarked : ∀ rest, text ≠ '\ufeff' :: rest := by
    rintro rest rfl
    exact absurd (ordinary '\ufeff' (List.mem_cons_self ..)) (by decide)
  rw [cellsOf, if_pos allowed]
  exact unmarked

theorem tokensOf_record (labelled : Node.Labelled fields) (values : ∀ field ∈ fields, Node.Carried 0 field.2) :
    tokensOf (writeDocument (.record fields)) = .ok (Node.record fields).tokens := by
  have written : writeDocument (.record fields) =
      joinLines 0 (writeFields 0 (Node.pairs fields)) ++ (newLine 0 ++ []) := by
    obtain ⟨field, others, rfl⟩ := List.exists_cons_of_ne_nil labelled.filled
    rfl
  have ordinary : (writeDocument (.record fields)).all isOrdinary = true := by
    rw [written, List.all_append, fields_ordinary 0 labelled.names fun field member => (values field member).ordinary]
    rfl
  have enters : Enters 0 [] [] [.mapStart] [0] := .opens (by rintro _ ⟨⟩)
  have gives := givesAt_fields labelled (fun field member => (values field member).lexes) (Nat.le_refl 0) fresh_nil
    enters (givesAt_end _) (cellsFrom 0 0 0 (writeDocument (.record fields))) ⟨0, 0, by rw [written]⟩
  simp only [tokensOf, cellsOf_ordinary ordinary, bind, Except.bind, pure, Except.pure, Lexer.start]
  have ran := gives.run (Nat.lt_succ_self _)
  rw [between] at ran
  rw [ran, Node.tokens_record labelled.filled]
  simp

end

end Triage.Yaml
