import TagAudit.Yaml.Meaning

/-!
# How far one document reaches into another

Where one document is laid over another, the tables that stand under common keys are combined in
turn, level by level. If both documents hold tables within themselves the levels may have no end,
and then neither has the combination. This is found out on the webs of nodes, before anything is
combined: a way down that passes more pairs of nodes than there are leads in circles.
-/

namespace TagAudit.Yaml.Web

/-- The most levels that there are below the keys of a table which another table has as well, given
    the levels below two nodes. -/
def levelsBelow? (levels : Nat → Nat → Option Nat) (others : Keyed Key Nat) :
    (entries : List (Key × Nat)) → Option Nat
  | [] => some 0
  | (key, node) :: rest =>
    let here? := match others.get? key with
      | some other => levels node other
      | none => some 0
    here?.bind fun here => (levelsBelow? levels others rest).map (max here)

/-- The levels on which tables are combined where one node is laid over another, if there are fewer
    than a bound. -/
def levelsWithin? (upper lower : Web) : (bound above below : Nat) → Option Nat
  | 0, _, _ => none
  | bound + 1, above, below =>
    match upper.table? above, lower.table? below with
    | some entries, some others =>
      (levelsBelow? (levelsWithin? upper lower bound) others entries).map (· + 1)
    | _, _ => some 0

/-- The levels on which tables are combined where one web is laid over another, if they have an
    end. -/
def levelsOver? (upper lower : Web) : Option Nat :=
  levelsWithin? upper lower (upper.meanings.size * lower.meanings.size + 1) upper.root lower.root

end TagAudit.Yaml.Web
