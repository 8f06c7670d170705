import Mathlib.Tactic.Ring
import Triage.Report
import Triage.Proofs.Datum.Order
import Triage.Proofs.Program.Named

namespace Triage

namespace Expr

variable {e : Expr}

instance decidableMentions (name : Datum) : ∀ e : Expr, Decidable (e.Mentions name)
  | .leaf _ => decidable_of_iff _ mentions_leaf.symm
  | .node _ left right =>
      have := decidableMentions name left
      have := decidableMentions name right
      decidable_of_iff _ mentions_node.symm
  | .foreign _ => isFalse mentions_foreign

def names : Expr → List Datum
  | .leaf condition => [condition.statement]
  | .node _ left right => Datum.union left.names right.names
  | .foreign _ => []

def height : Expr → Nat
  | .leaf _ | .foreign _ => 1
  | .node _ left right => max left.height right.height + 1

def size : Expr → Nat
  | .leaf _ | .foreign _ => 1
  | .node _ left right => left.size + right.size + 1

def measure (e : Expr) : Metrics := ⟨e.height, e.size, e.names⟩

theorem mentions_of_mem (member : name ∈ e.names) : e.Mentions name := by
  induction e with
  | leaf condition => exact mentions_leaf.mpr (List.mem_singleton.mp member).symm
  | node op left right ihLeft ihRight =>
      rw [mentions_node]
      exact (Datum.mem_of_mem_union member).imp ihLeft ihRight
  | foreign given => cases member

theorem hasKey_names : Datum.hasKey e.names name = true ↔ ∃ other, e.Mentions other ∧ Datum.sameKey other name = true := by
  induction e with
  | leaf condition => simp [names, Datum.hasKey]
  | node op left right ihLeft ihRight =>
      rw [names, Datum.hasKey_union, ihLeft, ihRight]
      simp only [mentions_node, or_and_right, exists_or]
  | foreign given => simp [names, Datum.hasKey]

theorem nodup_names (e : Expr) : (e.names.map Datum.keyForm).Nodup := by
  induction e with
  | leaf condition => exact List.nodup_singleton _
  | node op left right ihLeft ihRight => exact Datum.nodup_union ihLeft right.names
  | foreign given => exact List.nodup_nil

theorem mem_names (texts : ∀ name, e.Mentions name → name.isText = true) (name : Datum) : name ∈ e.names ↔ e.Mentions name := by
  constructor
  · exact mentions_of_mem
  · intro mentions
    have text := texts name mentions
    rw [← Datum.hasKey_text text, hasKey_names]
    exact ⟨name, mentions, (Datum.sameKey_text text name).mpr rfl⟩

theorem metrics_keys (keys : ∀ name, e.Mentions name → name.isKey = true) : e.metrics = .ok e.measure := by
  induction e with
  | leaf condition => exact if_pos (keys condition.statement (mentions_leaf.mpr rfl))
  | node op left right ihLeft ihRight =>
      have first := ihLeft fun name mentions => keys name (mentions_node.mpr (.inl mentions))
      have second := ihRight fun name mentions => keys name (mentions_node.mpr (.inr mentions))
      rw [metrics, first, second]
      rfl
  | foreign given => rfl

theorem metrics_texts (texts : ∀ name, e.Mentions name → name.isText = true) :
    e.metrics = .ok e.measure :=
  metrics_keys fun name mentions => Datum.isKey_text (texts name mentions)

theorem metrics_named (texts : ∀ name, e.Mentions name → name.isText = true) :
    ∃ m, e.metrics = .ok m ∧ ∀ name, name ∈ m.names ↔ e.Mentions name :=
  ⟨_, metrics_texts texts, mem_names texts⟩

section Bounds

theorem size_tips (e : Expr) : e.size + 1 = 2 * e.tips.length := by
  induction e with
  | leaf condition => rfl
  | node op left right ihLeft ihRight =>
      rw [size, tips, List.length_append]
      omega
  | foreign given => rfl

theorem height_pos (e : Expr) : 0 < e.height := by
  cases e <;> simp [height]

theorem height_le_tips (e : Expr) : e.height ≤ e.tips.length := by
  induction e with
  | leaf condition => exact Nat.le_refl 1
  | node op left right ihLeft ihRight =>
      have first := height_pos left
      have second := height_pos right
      rw [height, tips, List.length_append]
      omega
  | foreign given => exact Nat.le_refl 1

theorem tips_le_height (e : Expr) : e.tips.length ≤ 2 ^ (e.height - 1) := by
  induction e with
  | leaf condition => exact Nat.le_refl 1
  | node op left right ihLeft ihRight =>
      have level : max left.height right.height = max (left.height - 1) (right.height - 1) + 1 := by
        have first := height_pos left
        have second := height_pos right
        omega
      calc (Expr.node op left right).tips.length
        _ = left.tips.length + right.tips.length := by rw [tips, List.length_append]
        _ ≤ 2 ^ max (left.height - 1) (right.height - 1) + 2 ^ max (left.height - 1) (right.height - 1) :=
            Nat.add_le_add (ihLeft.trans (Nat.pow_le_pow_right (by decide) (le_max_left ..)))
              (ihRight.trans (Nat.pow_le_pow_right (by decide) (le_max_right ..)))
        _ = 2 ^ ((Expr.node op left right).height - 1) := by
            rw [height, Nat.add_sub_cancel, level]
            ring
  | foreign given => exact Nat.le_refl 1

end Bounds

end Expr

structure Metrics.Sums (m : Metrics) (asked : List Condition) : Prop where
  names : ∀ name, Datum.hasKey m.names name = true ↔
    ∃ condition ∈ asked, Datum.sameKey condition.statement name = true
  given : ∀ name ∈ m.names, ∃ condition ∈ asked, condition.statement = name
  once : (m.names.map Datum.keyForm).Nodup
  nodes : m.nodes + 1 = 2 * asked.length
  shallow : 0 < m.depth ∧ m.depth ≤ asked.length
  wide : asked.length ≤ 2 ^ (m.depth - 1)

namespace Expr

variable {e : Expr} {asked : List Condition}

theorem measure_sums (same : e.tips = asked.map .ok) : e.measure.Sums asked := by
  have length : e.tips.length = asked.length := by rw [same, List.length_map]
  constructor
  case names =>
    intro name
    simp only [measure, hasKey_names, mentions_tips same]
    constructor
    · intro known
      obtain ⟨_, ⟨condition, member, rfl⟩, alike⟩ := known
      exact ⟨condition, member, alike⟩
    · intro known
      obtain ⟨condition, member, alike⟩ := known
      exact ⟨condition.statement, ⟨condition, member, rfl⟩, alike⟩
  case given => exact fun name member => (mentions_tips same).mp (mentions_of_mem member)
  case once => exact nodup_names e
  case nodes => exact length ▸ size_tips e
  case shallow => exact ⟨height_pos e, length ▸ height_le_tips e⟩
  case wide => exact length ▸ tips_le_height e

-- A tree of conditions is measured as a walk over its conditions finds it.
theorem metrics_conditions (proper : e.proper = true) (keys : ∀ name, e.Mentions name → name.isKey = true) :
    ∃ asked m, e.conditions = .ok asked ∧ e.metrics = .ok m ∧ m.Sums asked := by
  obtain ⟨asked, same⟩ := tips_proper proper
  exact ⟨asked, _, conditions_tips same, metrics_keys keys, measure_sums same⟩

end Expr

end Triage
