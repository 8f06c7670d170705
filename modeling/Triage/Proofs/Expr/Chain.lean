import Triage.Proofs.Expr.Reading

namespace Triage.Expr
open Triage.Text

structure Link where
  gap : List Char
  op : Connective
  space : List Char
  operand : List Char

def Link.Spaced (link : Link) : Prop := IsGap link.gap ∧ IsGap link.space

instance (link : Link) : Decidable link.Spaced := inferInstanceAs (Decidable (_ ∧ _))

def chain (first : List Char) : List Link → List Char
  | [] => first
  | link :: links => first ++ link.gap ++ (link.op.word ++ (link.space ++ chain link.operand links))

def operands (first : List Char) (links : List Link) : List (List Char) := first :: links.map Link.operand

def rightNested (tree : List Char → Expr) (first : List Char) : List Link → Expr
  | [] => tree first
  | link :: links => .node link.op (tree first) (rightNested tree link.operand links)

def Single (operand : List Char) : Prop := Balanced operand ∧ ¬HasConnective operand

instance (operand : List Char) : Decidable (Single operand) := inferInstanceAs (Decidable (_ ∧ _))

theorem read_blank (blank : allBlank text = true) : read text = .error (.emptyCondition []) := by
  have empty := trim_blank blank
  have loose : ¬IsGroup (trim text) := by rw [empty]; decide
  have single : ¬HasConnective (trim text) := by rw [empty]; decide
  rw [read_leaf loose single, empty]
  rfl

theorem solid_of_read (accepted : read text = .ok e) : allBlank text = false := by
  cases blank : allBlank text with
  | false => rfl
  | true =>
      rw [read_blank blank] at accepted
      cases accepted

theorem chain_solid (solid : links = [] → allBlank first = false) : allBlank (chain first links) = false := by
  cases links with
  | nil => exact solid rfl
  | cons link links =>
      have letters : allBlank link.op.word = false := by cases link.op <;> rfl
      simp [chain, allBlank_append, letters]

theorem read_chain_link (spaced : link.Spaced) (single : Single first) (solid : allBlank first = false)
    (more : allBlank (chain link.operand links) = false) :
    read (chain first (link :: links)) =
      do return .node link.op (← read first) (← read (chain link.operand links)) := by
  have joined := read_join single.1 single.2 spaced.1 spaced.2 link.op (chain link.operand links)
  rw [solid, more] at joined
  exact joined

theorem operands_cons (first : List Char) (link : Link) (links : List Link) :
    operands first (link :: links) = first :: operands link.operand links := rfl

theorem read_chain_all (spaced : ∀ link ∈ links, link.Spaced)
    (single : ∀ operand ∈ operands first links, Single operand)
    (accepted : ∀ operand ∈ operands first links, read operand = .ok (tree operand)) :
    read (chain first links) = .ok (rightNested tree first links) := by
  induction links generalizing first with
  | nil => exact accepted first (by simp [operands])
  | cons link links ih =>
      rw [List.forall_mem_cons] at spaced
      rw [operands_cons, List.forall_mem_cons] at single accepted
      have next := accepted.2 link.operand (by simp [operands])
      have more : allBlank (chain link.operand links) = false := chain_solid fun _ => solid_of_read next
      rw [read_chain_link spaced.1 single.1 (solid_of_read accepted.1) more, accepted.1,
        ih spaced.2 single.2 accepted.2]
      rfl

theorem read_chain_fault (spaced : ∀ link ∈ links, link.Spaced)
    (single : ∀ operand ∈ operands first links, Single operand)
    (solid : ∀ operand ∈ operands first links, allBlank operand = false)
    (parts : operands first links = earlier ++ failing :: later)
    (accepted : ∀ operand ∈ earlier, ∃ e, read operand = .ok e) (failed : read failing = .error fault) :
    read (chain first links) = .error fault := by
  induction links generalizing first earlier with
  | nil =>
      obtain ⟨rfl, rfl, rfl⟩ : earlier = [] ∧ failing = first ∧ later = [] := by
        cases earlier <;> simp_all [operands]
      exact failed
  | cons link links ih =>
      rw [List.forall_mem_cons] at spaced
      rw [operands_cons, List.forall_mem_cons] at single solid
      rw [operands_cons] at parts
      have more : allBlank (chain link.operand links) = false :=
        chain_solid fun _ => solid.2 link.operand (by simp [operands])
      rw [read_chain_link spaced.1 single.1 solid.1 more]
      cases earlier with
      | nil =>
          cases parts
          rw [failed]
          rfl
      | cons passed earlier =>
          rw [List.cons_append, List.cons.injEq] at parts
          obtain ⟨rfl, parts⟩ := parts
          rw [List.forall_mem_cons] at accepted
          obtain ⟨e, here⟩ := accepted.1
          rw [here, ih spaced.2 single.2 solid.2 parts accepted.2]
          rfl

theorem read_chain_missing (several : links ≠ []) (spaced : ∀ link ∈ links, link.Spaced)
    (single : ∀ operand ∈ operands first links, Single operand)
    (missing : ∃ operand ∈ operands first links, allBlank operand = true)
    (accepted : ∀ operand ∈ operands first links, allBlank operand = false → ∃ e, read operand = .ok e) :
    ∃ part, read (chain first links) = .error (.missingOperand part) := by
  induction links generalizing first with
  | nil => exact absurd rfl several
  | cons link links ih =>
      rw [List.forall_mem_cons] at spaced
      rw [operands_cons, List.forall_mem_cons] at single accepted
      have joined := read_join single.1.1 single.1.2 spaced.1.1 spaced.1.2 link.op (chain link.operand links)
      rw [chain, joined]
      cases blank : allBlank first with
      | true => exact ⟨_, rfl⟩
      | false =>
          cases rest : allBlank (chain link.operand links) with
          | true => exact ⟨_, rfl⟩
          | false =>
              obtain ⟨e, here⟩ := accepted.1 blank
              have later : ∃ operand ∈ operands link.operand links, allBlank operand = true := by
                obtain ⟨operand, member, empty⟩ := missing
                rw [operands_cons] at member
                rcases List.mem_cons.mp member with rfl | member
                · rw [blank] at empty
                  cases empty
                · exact ⟨operand, member, empty⟩
              have further : links ≠ [] := by
                rintro rfl
                obtain ⟨operand, member, empty⟩ := later
                obtain rfl : operand = link.operand := by simpa [operands] using member
                rw [chain, empty] at rest
                cases rest
              obtain ⟨part, failed⟩ := ih further spaced.2 single.2 later accepted.2
              rw [here, failed]
              exact ⟨part, rfl⟩

-- A chain of at least two operands. When all of them can be read, so can the chain; when none of
-- them is blank, the first one that cannot be read gives its fault to the chain; and a blank one
-- among others that can be read is an operand that is missing.
theorem read_chain (several : links ≠ []) (spaced : ∀ link ∈ links, link.Spaced)
    (single : ∀ operand ∈ operands first links, Single operand) :
    (∀ tree : List Char → Expr, (∀ operand ∈ operands first links, read operand = .ok (tree operand)) →
      read (chain first links) = .ok (rightNested tree first links)) ∧
    (∀ earlier failing later fault, (∀ operand ∈ operands first links, allBlank operand = false) →
      operands first links = earlier ++ failing :: later → (∀ operand ∈ earlier, ∃ e, read operand = .ok e) →
      read failing = .error fault → read (chain first links) = .error fault) ∧
    ((∃ operand ∈ operands first links, allBlank operand = true) →
      (∀ operand ∈ operands first links, allBlank operand = false → ∃ e, read operand = .ok e) →
      ∃ fault, read (chain first links) = .error fault ∧ fault.kind = .invalidLogicalExpression) := by
  refine ⟨fun tree accepted => read_chain_all spaced single accepted, ?_, ?_⟩
  · intro earlier failing later fault solid parts accepted failed
    exact read_chain_fault spaced single solid parts accepted failed
  · intro missing accepted
    obtain ⟨part, failed⟩ := read_chain_missing several spaced single missing accepted
    exact ⟨_, failed, rfl⟩

def mixedLinks (middle last : String) : List Link :=
  [⟨[' '], .and, ['\t', ' '], middle.toList⟩, ⟨[' '], .or, [' '], last.toList⟩]

theorem read_chain_mixed :
    read (chain "(a OR b)".toList (mixedLinks "NOT c" "f(x AND y)")) =
      .ok (.node .and (.node .or (.leaf ⟨Datum.ofChars "a".toList, false⟩) (.leaf ⟨Datum.ofChars "b".toList, false⟩))
        (.node .or (.leaf ⟨Datum.ofChars "c".toList, true⟩) (.leaf ⟨Datum.ofChars "f(x AND y)".toList, false⟩))) ∧
    read (chain "(a OR b)".toList (mixedLinks "NOT" "(d OR)")) = .error (.emptyCondition "NOT".toList) ∧
    ∃ fault, read (chain "(a OR b)".toList (mixedLinks "c" " ")) = .error fault ∧
      fault.kind = .invalidLogicalExpression := by
  have reads : ∀ operand, (read operand).toOption.isSome = true → ∃ e, read operand = .ok e := by
    intro operand accepted
    cases found : read operand with
    | error fault => simp [found, Except.toOption] at accepted
    | ok e => exact ⟨e, rfl⟩
  refine ⟨?_, ?_, ?_⟩
  · have whole := (read_chain (by decide) (by decide) (by decide)).1
      (fun operand => (read operand).toOption.getD (.foreign .null))
      (show ∀ operand ∈ operands "(a OR b)".toList (mixedLinks "NOT c" "f(x AND y)"), _ by decide +kernel)
    rw [whole]
    decide +kernel
  · have first : ∀ operand ∈ ["(a OR b)".toList], (read operand).toOption.isSome = true := by decide +kernel
    exact (read_chain (by decide) (by decide) (by decide)).2.1 _ "NOT".toList ["(d OR)".toList] _
      (by decide) rfl (fun operand member => reads operand (first operand member)) (by decide +kernel)
  · have others : ∀ operand ∈ operands "(a OR b)".toList (mixedLinks "c" " "),
        allBlank operand = false → (read operand).toOption.isSome = true := by decide +kernel
    exact (read_chain (by decide) (by decide) (by decide)).2.2 (by decide)
      fun operand member solid => reads operand (others operand member solid)

end Triage.Expr
