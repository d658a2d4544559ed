import RuleTree.Proofs.Parse.Drive

/-!
# Parses that come to nodes

`Yields` is the recursive meaning of a parse without the ways in which it can fail: four cases, where
`Drive` has eight. What holds of all nodes that a parse can return is proved by induction on it.
-/

namespace RuleTree

/-- `Yields limit depth rules pending rest nodes`: with `depth` matches open around it, `rest` becomes
`nodes` under `rules`, where `pending` is the literal run that leads up to it. -/
inductive Yields (limit : Option Int) : Nat → RuleSet → Text → Text → List Node → Prop
  | done {depth : Nat} {rules : RuleSet} {pending : Text} :
      Yields limit depth rules pending [] (Node.ofRun pending)
  | literal {depth : Nat} {rules : RuleSet} {pending rest : Text} {ch : Char} {nodes : List Node} :
      rules.Silent (ch :: rest) →
      Yields limit depth rules (pending ++ [ch]) rest nodes →
      Yields limit depth rules pending (ch :: rest) nodes
  | ignored {depth : Nat} {rules : RuleSet} {pending rest : Text} {c : Construction}
      {behind : List Node} :
      rules.Accepts rest c → c.found.rule.ignore = true →
      Yields limit depth rules [] c.nextText behind →
      Yields limit depth rules pending rest (Node.ofRun pending ++ behind)
  | nested {depth : Nat} {rules : RuleSet} {pending rest : Text} {c : Construction}
      {children behind : List Node} {s : Shaped} :
      rules.Accepts rest c → c.found.rule.ignore = false → Permits limit (depth + 1) →
      Yields limit (depth + 1) (c.found.rule.childRules rules) [] c.payload children →
      c.shape children = .ok s →
      Yields limit depth rules [] c.nextText behind →
      Yields limit depth rules pending rest (Node.ofRun pending ++ s.nodes ++ behind)

variable {limit : Option Int} {depth : Nat} {rules : RuleSet} {pending rest : Text}
  {nodes : List Node}

theorem Drive.yields {out : Parse (List Node)} (h : Drive limit depth rules pending rest out) :
    ∀ nodes, out = .ok nodes → Yields limit depth rules pending rest nodes := by
  induction h with
  | done =>
    intro nodes he
    cases he
    exact .done
  | literal hs _ ih => exact fun nodes he => .literal hs (ih nodes he)
  | failed _ _ _ => intro nodes he; cases he
  | rejected _ _ _ _ => intro nodes he; cases he
  | tooDeep _ _ _ _ => intro nodes he; cases he
  | broken _ _ _ _ _ _ => intro nodes he; cases he
  | @ignored _ _ _ _ _ out ha hi _ ih =>
    intro nodes he
    cases out with
    | error e => cases he
    | ok behind =>
      cases he
      exact .ignored ha hi (ih behind rfl)
  | @nested _ _ _ _ c inner out s ha hi hl _ hs _ ih ihrest =>
    intro nodes he
    obtain ⟨children, rfl, hs⟩ := bind_eq_ok.mp hs
    cases out with
    | error e => cases he
    | ok behind =>
      cases he
      exact .nested ha hi hl (ih children rfl) hs (ihrest behind rfl)

theorem Yields.drive (h : Yields limit depth rules pending rest nodes) :
    Drive limit depth rules pending rest (.ok nodes) := by
  induction h with
  | done => exact .done
  | literal hs _ ih => exact .literal hs ih
  | ignored ha hi _ ih => exact .ignored ha hi ih
  | nested ha hi hl _ hs _ ih ihrest => exact .nested ha hi hl ih hs ihrest

theorem parse_ok_iff_yields {text : Text} :
    (∃ steps, parse steps limit text rules = some (.ok nodes)) ↔
      Yields limit 0 rules [] text nodes := by
  constructor
  · intro h
    exact (Machine.drive_of_start_halts h).yields nodes rfl
  · intro h
    exact Machine.start_halts_of_drive h.drive

end RuleTree
