import Triage.Selection
import Triage.Proofs.Program.Named

namespace Triage

theorem Expr.holds_named {e : Expr} (texts : ∀ name, e.Mentions name → name.isText = true) (answers : Answers) :
    ∃ truth, e.holds answers = .ok truth := by
  induction e with
  | leaf condition =>
      obtain ⟨statement, negated⟩ := condition
      obtain ⟨s, rfl⟩ := Datum.exists_text (texts statement (by simp))
      exact ⟨_, rfl⟩
  | node op left right ihLeft ihRight =>
      obtain ⟨l, first⟩ := ihLeft fun name member => texts name (by simp [member])
      obtain ⟨r, second⟩ := ihRight fun name member => texts name (by simp [member])
      exact ⟨op.apply l r, by rw [Expr.holds, first, second]; rfl⟩
  | foreign given => exact ⟨false, rfl⟩

namespace Program

variable {p : Program} {rule : Rule} {rules : List Rule} {results : List Declaration} {answers : Answers}

def Applies (p : Program) (answers : Answers) (rule : Rule) : Prop :=
  rule.expression.holds answers = .ok true ∧ Declares p.results rule.result

def LastApplying (p : Program) (answers : Answers) (rule : Rule) : Prop :=
  ∃ earlier later, p.rules = earlier ++ rule :: later ∧ p.Applies answers rule ∧
    ∀ other ∈ later, ¬p.Applies answers other

def choice? (results : List Declaration) (answers : Answers) (rule : Rule) : Option Datum :=
  if rule.expression.holds answers = .ok true then outcome? results rule else none

theorem fired_named (texts : ∀ rule ∈ rules, ∀ name, rule.expression.Mentions name → name.isText = true)
    (answers : Answers) :
    fired answers rules = .ok (rules.filter fun rule => rule.expression.holds answers = .ok true) := by
  induction rules with
  | nil => rfl
  | cons rule rules ih =>
      obtain ⟨here, later⟩ := List.forall_mem_cons.mp texts
      obtain ⟨truth, found⟩ := Expr.holds_named here answers
      rw [fired, found, ih later]
      cases truth <;> simp [found, bind, Except.bind, pure, Except.pure]

theorem selectFrom_step (mentions : ∀ name, rule.expression.Mentions name → name.isText = true)
    (outcome : rule.result.isText = true) (answers : Answers) (selected : Option Datum) :
    selectFrom results answers selected (rule :: rules) =
      selectFrom results answers ((choice? results answers rule).or selected) rules := by
  obtain ⟨truth, found⟩ := Expr.holds_named mentions answers
  rw [selectFrom, choice?, found]
  cases truth with
  | true => exact if_pos (Datum.isKey_text outcome)
  | false => rfl

theorem selectFrom_named (mentions : ∀ rule ∈ rules, ∀ name, rule.expression.Mentions name → name.isText = true)
    (outcomes : ∀ rule ∈ rules, rule.result.isText = true) (answers : Answers) (selected : Option Datum) :
    selectFrom results answers selected rules =
      .ok ((rules.filterMap (choice? results answers)).getLast?.or selected) := by
  induction rules generalizing selected with
  | nil => rfl
  | cons rule rules ih =>
      obtain ⟨mentioned, laterMentions⟩ := List.forall_mem_cons.mp mentions
      obtain ⟨outcome, laterOutcomes⟩ := List.forall_mem_cons.mp outcomes
      rw [selectFrom_step mentioned outcome, ih laterMentions laterOutcomes, List.filterMap_cons]
      cases choice? results answers rule with
      | none => rfl
      | some value =>
          rw [List.getLast?_cons]
          cases (rules.filterMap (choice? results answers)).getLast? <;> rfl

theorem selectAmong_named (results : ∀ name, Declares declarations name → name.isText = true)
    (mentions : ∀ rule ∈ rules, ∀ name, rule.expression.Mentions name → name.isText = true)
    (outcomes : ∀ rule ∈ rules, rule.result.isText = true) (answers : Answers) :
    selectAmong declarations rules answers = .ok (rules.filterMap (choice? declarations answers)).getLast? := by
  rw [selectAmong, names_texts results]
  exact (selectFrom_named mentions outcomes answers none).trans (by rw [Option.or_none])

theorem choice?_eq_some (named : p.Named) (member : rule ∈ p.rules) : choice? p.results answers rule = some text ↔
    p.Applies answers rule ∧
      ∃ declaration, FirstDeclared p.results rule.result declaration ∧ declaration.value = text := by
  rw [choice?, outcome?, Applies]
  split
  · rename_i holds
    simp only [holds, true_and, Option.map_eq_some_iff, declared?_eq_some (named.outcomes rule member)]
    constructor
    · rintro ⟨declaration, first, value⟩
      exact ⟨first.declares, declaration, first, value⟩
    · rintro ⟨_, selected⟩
      exact selected
  · rename_i fails
    simp [fails]

theorem choice?_eq_none (named : p.Named) (member : rule ∈ p.rules) :
    choice? p.results answers rule = none ↔ ¬p.Applies answers rule := by
  rw [choice?, outcome?, Applies]
  split
  · rename_i holds
    simp [holds, declared?_eq_none (named.outcomes rule member)]
  · rename_i fails
    simp [fails]

theorem getLast?_filterMap_eq_some {values : List α} {f : α → Option β} :
    (values.filterMap f).getLast? = some result ↔
      ∃ earlier value later, values = earlier ++ value :: later ∧ f value = some result ∧
        ∀ other ∈ later, f other = none := by
  constructor
  · intro last
    obtain ⟨others, parts⟩ := List.getLast?_eq_some_iff.mp last
    obtain ⟨front, back, rfl, _, single⟩ := List.filterMap_eq_append_iff.mp parts
    obtain ⟨missed, value, later, rfl, _, here, nothing⟩ := List.filterMap_eq_cons_iff.mp single
    exact ⟨front ++ missed, value, later, by simp, here, List.filterMap_eq_nil_iff.mp nothing⟩
  · rintro ⟨earlier, value, later, rfl, here, others⟩
    have nothing : later.filterMap f = [] := List.filterMap_eq_nil_iff.mpr others
    simp [here, nothing]

theorem select_named (named : p.Named) (answers : Answers) :
    p.select answers = .ok (p.rules.filterMap (choice? p.results answers)).getLast? :=
  selectAmong_named named.results named.mentions named.outcomes answers

theorem select_eq_none (named : p.Named) (answers : Answers) :
    p.select answers = .ok none ↔ ∀ rule ∈ p.rules, ¬p.Applies answers rule := by
  rw [select_named named, Except.ok.injEq, List.getLast?_eq_none_iff, List.filterMap_eq_nil_iff]
  exact forall₂_congr fun rule member => choice?_eq_none named member

theorem select_eq_some (named : p.Named) (answers : Answers) (text : Datum) :
    p.select answers = .ok (some text) ↔ ∃ rule declaration, p.LastApplying answers rule ∧
      FirstDeclared p.results rule.result declaration ∧ declaration.value = text := by
  rw [select_named named, Except.ok.injEq, getLast?_filterMap_eq_some]
  constructor
  · rintro ⟨earlier, rule, later, parts, here, others⟩
    obtain ⟨applies, declaration, first, value⟩ := (choice?_eq_some named (by simp [parts])).mp here
    refine ⟨rule, declaration, ⟨earlier, later, parts, applies, fun other member => ?_⟩, first, value⟩
    exact (choice?_eq_none named (by simp [parts, member])).mp (others other member)
  · rintro ⟨rule, declaration, ⟨earlier, later, parts, applies, others⟩, first, value⟩
    have here : choice? p.results answers rule = some text :=
      (choice?_eq_some named (by simp [parts])).mpr ⟨applies, declaration, first, value⟩
    refine ⟨earlier, rule, later, parts, here, fun other member => ?_⟩
    exact (choice?_eq_none named (by simp [parts, member])).mpr (others other member)

theorem select_append (named : p.Named) (answers : Answers) (parts : p.rules = first ++ second) :
    ∃ early late, selectAmong p.results first answers = .ok early ∧
      selectAmong p.results second answers = .ok late ∧ p.select answers = .ok (late.or early) := by
  have inFirst : ∀ rule ∈ first, rule ∈ p.rules := fun rule member => by simp [parts, member]
  have inSecond : ∀ rule ∈ second, rule ∈ p.rules := fun rule member => by simp [parts, member]
  refine ⟨_, _, selectAmong_named named.results (fun rule member => named.mentions rule (inFirst rule member))
    (fun rule member => named.outcomes rule (inFirst rule member)) answers,
    selectAmong_named named.results (fun rule member => named.mentions rule (inSecond rule member))
    (fun rule member => named.outcomes rule (inSecond rule member)) answers, ?_⟩
  rw [select_named named, parts, List.filterMap_append, List.getLast?_append]

theorem result?_eq_some (named : p.Named) (member : rule ∈ p.rules) :
    p.result? rule.result = some declaration ↔ FirstDeclared p.results rule.result declaration := by
  have text := named.outcomes rule member
  rw [result?, asked?_text text, declared?_eq_some text]

-- Something is selected exactly when a rule applies. The last rule that does selects the text of the
-- first declaration of its result, which is the one that is found by name; and rules in two parts
-- select what the second part selects, or else what the first one does.
theorem select_last (named : p.Named) (answers : Answers) :
    (∃ outcome, p.select answers = .ok outcome) ∧
    (p.select answers = .ok none ↔ ∀ rule ∈ p.rules, ¬p.Applies answers rule) ∧
    (∀ text, p.select answers = .ok (some text) ↔ ∃ rule declaration, p.LastApplying answers rule ∧
      p.result? rule.result = some declaration ∧ FirstDeclared p.results rule.result declaration ∧
        declaration.value = text) ∧
    ∀ first second, p.rules = first ++ second →
      ∃ early late, selectAmong p.results first answers = .ok early ∧
        selectAmong p.results second answers = .ok late ∧ p.select answers = .ok (late.or early) := by
  refine ⟨⟨_, select_named named answers⟩, select_eq_none named answers, fun text => ?_,
    fun first second => select_append named answers⟩
  rw [select_eq_some named]
  refine exists₂_congr fun rule declaration => and_congr_right fun ⟨earlier, later, parts, _⟩ => ?_
  have found : p.result? rule.result = some declaration ↔ FirstDeclared p.results rule.result declaration :=
    result?_eq_some named (by simp [parts])
  rw [found, ← and_assoc, and_self]

-- The fan is declared twice, first without a text; of the rules that hold the last one leads to a
-- result that is not declared.
def contested : Program where
  statements := [⟨.text "noise", .text "Is it loud?"⟩]
  results := [⟨.text "fan", .text ""⟩, ⟨.text "case", .text "Open the case."⟩,
    ⟨.text "fan", .text "Replace the fan."⟩]
  rules := [⟨.leaf ⟨.text "noise", false⟩, .text "case"⟩, ⟨.leaf ⟨.text "noise", false⟩, .text "fan"⟩,
    ⟨.leaf ⟨.text "noise", true⟩, .text "case"⟩, ⟨.leaf ⟨.text "noise", false⟩, .text "disk"⟩]

theorem select_last_contested : contested.Named ∧
    contested.select [("noise", .text "yes")] = .ok (some (.text "")) ∧
    ∃ rule declaration, contested.LastApplying [("noise", .text "yes")] rule ∧
      contested.result? rule.result = some declaration ∧ declaration.value = .text "" := by
  have named : contested.Named := by decide
  have selected : contested.select [("noise", .text "yes")] = .ok (some (.text "")) := by decide
  obtain ⟨_, _, some, _⟩ := select_last named [("noise", .text "yes")]
  obtain ⟨rule, declaration, last, found, _, value⟩ := (some (.text "")).mp selected
  exact ⟨named, selected, rule, declaration, last, found, value⟩

end Program

end Triage
