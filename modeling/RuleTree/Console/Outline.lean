import RuleTree.Console.Markup
import RuleTree.Node.Basic
import RuleTree.Value.Printer

/-!
# Outlines

The tree that a console shows for a list of nodes. It grows from its root by one vertex a round: a
node waits together with the place of its parent until it is added there as the last child, and then
its own children wait to be added below it.
-/

namespace RuleTree

inductive Outline where
  | item (label : String) (children : List Outline)

instance : Inhabited Outline := ⟨.item "" []⟩

namespace Outline

def escaped (s : String) : String := String.ofList (Markup.escape s.toList)

def nameLabel (name : String) : String := "[bold cyan]" ++ escaped name ++ "[/bold cyan]"

def label : Node → String
  | .text t => "[green]" ++ escaped (Text.quoted t) ++ "[/green]"
  | .branch name _ => nameLabel name
  | .tagged name _ v => nameLabel name ++ " [dim]" ++ escaped (Datum.text v) ++ "[/dim]"

def titleLabel (title : String) : String := "[bold]" ++ escaped title ++ "[/bold]"

mutual

def size : Node → Nat
  | .text _ => 1
  | .branch _ cs => 1 + sizes cs
  | .tagged _ cs _ => 1 + sizes cs

def sizes : List Node → Nat
  | [] => 0
  | n :: ns => size n + sizes ns

end

theorem size_eq (n : Node) : size n = 1 + sizes n.children := by
  cases n <;> rfl

theorem sizes_append (ns ms : List Node) : sizes (ns ++ ms) = sizes ns + sizes ms := by
  induction ns with
  | nil => rw [List.nil_append, sizes, Nat.zero_add]
  | cons n ns ih => rw [List.cons_append, sizes, ih, sizes, Nat.add_assoc]

theorem sizes_reverse (ns : List Node) : sizes ns.reverse = sizes ns := by
  induction ns with
  | nil => rfl
  | cons n ns ih =>
    rw [List.reverse_cons, sizes_append, ih, sizes, sizes, sizes]
    omega

/-- The way to a vertex from the root: the number of the child to take at each level. -/
abbrev Place := List Nat

/-- The number of children at a place. -/
def width : Outline → Place → Nat
  | item _ cs, [] => cs.length
  | item _ cs, i :: p =>
    match cs[i]? with
    | some c => c.width p
    | none => 0

/-- Adds an outline as the last child at a place. -/
def add : Outline → Place → Outline → Outline
  | item l cs, [], new => item l (cs ++ [new])
  | item l cs, i :: p, new => item l (cs.modify i (·.add p new))

/-- An outline that is being made. -/
structure Growth where
  outline : Outline
  /-- The nodes still to be added, each with the place of its parent; the last one comes next. -/
  pending : Array (Place × Node)

namespace Growth

def start (title : String) (nodes : List Node) : Growth where
  outline := item (titleLabel title) []
  pending := (nodes.reverse.map ([], ·)).toArray

/-- One round: the next node is added, and its children wait in its place. -/
def step (g : Growth) : Option Growth :=
  match g.pending.back? with
  | none => none
  | some (parent, n) =>
    let place := parent ++ [g.outline.width parent]
    some {
      outline := g.outline.add parent (item (label n) [])
      pending := g.pending.pop ++ (n.children.reverse.map (place, ·)).toArray }

/-- How many nodes are still to be added, those below the pending ones included. -/
def remaining (g : Growth) : Nat := sizes (g.pending.toList.map Prod.snd)

theorem nodes_at (place : Place) (ns : List Node) : (ns.map (place, ·)).map Prod.snd = ns := by
  rw [List.map_map]
  exact List.map_id ns

/-- Everything that a round does. -/
theorem step_cases {g next : Growth} (h : g.step = some next) :
    ∃ (rest : Array (Place × Node)) (parent : Place) (n : Node),
      g.pending = rest.push (parent, n) ∧
      next.outline = g.outline.add parent (item (label n) []) ∧
      next.pending =
        rest ++ (n.children.reverse.map (parent ++ [g.outline.width parent], ·)).toArray := by
  unfold step at h
  split at h
  · cases h
  · next parent n hback =>
    obtain ⟨rest, hpending⟩ := Array.back?_eq_some_iff.mp hback
    cases h
    exact ⟨rest, parent, n, hpending, rfl, by rw [hpending, Array.pop_push]⟩

theorem remaining_of_step {g next : Growth} (h : g.step = some next) :
    g.remaining = next.remaining + 1 := by
  obtain ⟨rest, parent, n, hpending, -, hnext⟩ := step_cases h
  have hbefore : g.pending.toList.map Prod.snd = rest.toList.map Prod.snd ++ [n] := by
    rw [hpending, Array.toList_push, List.map_append, List.map_cons, List.map_nil]
  have hafter : next.pending.toList.map Prod.snd =
      rest.toList.map Prod.snd ++ n.children.reverse := by
    rw [hnext, Array.toList_append, List.map_append, nodes_at]
  rw [remaining, remaining, hbefore, hafter, sizes_append, sizes_append, sizes_reverse, sizes, sizes,
    size_eq n]
  omega

/-- Adds nodes until none is pending. -/
def run (g : Growth) : Outline :=
  match _ : g.step with
  | none => g.outline
  | some next => next.run
termination_by g.remaining
decreasing_by exact remaining_of_step ‹_› ▸ Nat.lt_succ_self _

end Growth

/-- The outline of a list of nodes under a title. -/
def build (title : String) (nodes : List Node) : Outline := (Growth.start title nodes).run

mutual

/-- The labels of an outline in reading order, each with its depth. -/
def lines (depth : Nat) : Outline → List (Nat × String)
  | item l cs => (depth, l) :: linesAll (depth + 1) cs

def linesAll (depth : Nat) : List Outline → List (Nat × String)
  | [] => []
  | o :: os => lines depth o ++ linesAll depth os

end

/-- A label of several lines: the first after one guide, the others after another. -/
def guided (first others : Text) (label : String) : List Text :=
  match Markup.lines label.toList with
  | [] => [first]
  | l :: ls => (first ++ l) :: ls.map (others ++ ·)

mutual

/-- The lines below an item, each with its guides. -/
def childLines (guide : Text) : List Outline → List Text
  | [] => []
  | [item l cs] =>
    let next := guide ++ "    ".toList
    guided (guide ++ "└── ".toList) next l ++ childLines next cs
  | item l cs :: more =>
    let next := guide ++ "│   ".toList
    guided (guide ++ "├── ".toList) next l ++ childLines next cs ++ childLines guide more

end

/-- The outline as a console shows it, a break after each line. -/
def render : Outline → String
  | item l cs =>
    String.ofList ((guided [] [] l ++ childLines [] cs).flatMap (· ++ ['\n']))

end Outline

end RuleTree
