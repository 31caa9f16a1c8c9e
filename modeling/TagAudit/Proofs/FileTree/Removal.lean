import TagAudit.FileTree.Edit
import TagAudit.Proofs.FileTree.Pruning

/-!
# Taking away what stands at places

Taking away what stands at a place leaves a tree without that place, and everything else where it
was. So what is left when several places are cleared in turn does not depend on their order: it is
the tree without all of them.
-/

namespace TagAudit.Node

mutual
/-- A node below which nothing is gone is left as it is. -/
theorem without_of_apart (gone : Place → Bool) (place : Place) (node : Node)
    (apart : ∀ name rest, gone (place ++ name :: rest) = false) :
    node.without gone place = node := by
  cases node with
  | file content => rfl
  | link target => rfl
  | directory entries =>
    rw [without, entriesWithout_of_apart gone place entries fun name _ => apart name]

/-- Entries that are not gone, and below which nothing is gone, are left as they are. -/
theorem entriesWithout_of_apart (gone : Place → Bool) (place : Place) (entries : List (Text × Node))
    (apart : ∀ name ∈ Keyed.keys entries, ∀ rest, gone (place ++ name :: rest) = false) :
    entriesWithout gone place entries = entries := by
  cases entries with
  | nil => rfl
  | cons entry rest =>
    obtain ⟨name, node⟩ := entry
    have here := apart name List.mem_cons_self
    have kept : gone (place ++ [name]) = false := here []
    have below := without_of_apart gone (place ++ [name]) node fun next rest => by
      simpa using here (next :: rest)
    have later := entriesWithout_of_apart gone place rest fun name among =>
      apart name (List.mem_cons_of_mem _ among)
    rw [entriesWithout, if_neg (by simp [kept]), below, later]
end

mutual
/-- Two losses are one. -/
theorem without_without (gone goneToo : Place → Bool) (place : Place) (node : Node) :
    (node.without gone place).without goneToo place =
      node.without (fun lost => gone lost || goneToo lost) place := by
  cases node with
  | file content => rfl
  | link target => rfl
  | directory entries =>
    rw [without, without, without, entriesWithout_entriesWithout gone goneToo place entries]

/-- Two losses of entries are one. -/
theorem entriesWithout_entriesWithout (gone goneToo : Place → Bool) (place : Place)
    (entries : List (Text × Node)) :
    entriesWithout goneToo place (entriesWithout gone place entries) =
      entriesWithout (fun lost => gone lost || goneToo lost) place entries := by
  cases entries with
  | nil => rfl
  | cons entry rest =>
    obtain ⟨name, node⟩ := entry
    have later := entriesWithout_entriesWithout gone goneToo place rest
    have below := without_without gone goneToo (place ++ [name]) node
    cases first : gone (place ++ [name]) with
    | true => simp [entriesWithout, first, later]
    | false => simp [entriesWithout, first, below, later]
end

/-- Without the place of one name, a directory has lost what it holds under the name. -/
theorem entriesWithout_one (base : Place) (name : Text) (entries : List (Text × Node)) :
    entriesWithout (fun lost => lost == base ++ [name]) base entries =
      Keyed.without name entries := by
  induction entries with
  | nil => rfl
  | cons entry rest inductionHypothesis =>
    obtain ⟨held, node⟩ := entry
    rw [Keyed.without] at inductionHypothesis ⊢
    by_cases same : held = name
    · subst same
      simp [entriesWithout, inductionHypothesis]
    · have below : node.without (fun lost => lost == base ++ [name]) (base ++ [held]) = node :=
        without_of_apart _ _ node fun next rest => by simp
      simp [entriesWithout, same, below, inductionHypothesis]

/-- A loss below one entry of a directory changes that entry. -/
theorem entriesWithout_eq_put (gone : Place → Bool) (base : Place) (name : Text) (inner : Node)
    (entries : List (Text × Node)) (proper : entriesProper entries)
    (held : Keyed.get? name entries = some inner) (kept : gone (base ++ [name]) = false)
    (apart : ∀ other ≠ name, ∀ rest, gone (base ++ other :: rest) = false) :
    entriesWithout gone base entries =
      Keyed.put name (inner.without gone (base ++ [name])) entries := by
  induction entries with
  | nil => cases held
  | cons entry rest inductionHypothesis =>
    obtain ⟨first, node⟩ := entry
    obtain ⟨-, once, -, properRest⟩ := (entriesProper_cons_iff first node rest).mp proper
    by_cases same : first = name
    · subst same
      obtain rfl : node = inner := by simpa [Keyed.get?] using held
      have others : entriesWithout gone base rest = rest :=
        entriesWithout_of_apart gone base rest fun other among =>
          apart other fun same => once (same ▸ among)
      simp [entriesWithout, Keyed.put, kept, others]
    · have here : gone (base ++ [first]) = false := apart first same []
      have below : node.without gone (base ++ [first]) = node :=
        without_of_apart gone _ node fun next rest => by simpa using apart first same (next :: rest)
      have later := inductionHypothesis properRest (by simpa [Keyed.get?, same] using held)
      simp [entriesWithout, Keyed.put, same, here, below, later]

/-- Clearing a place in a directory that stands below a node leaves the node without it. -/
theorem update_none_eq (node : Node) (base above : Place) (name : Text)
    (proper : node.isProper) (inside : ∃ entries, node.at? above = some (.directory entries)) :
    update (fun _ => none) (above ++ [name]) (some node) =
      some (node.without (fun lost => lost == base ++ above ++ [name]) base) := by
  obtain ⟨inner, stands⟩ := inside
  induction above generalizing node base with
  | nil =>
    obtain rfl := Option.some.inj stands
    rw [List.nil_append, List.append_nil, without, entriesWithout_one]
    rfl
  | cons next rest inductionHypothesis =>
    cases node with
    | file content => cases stands
    | link target => cases stands
    | directory entries =>
      obtain ⟨below, held, further⟩ := Option.bind_eq_some_iff.mp stands
      rw [isProper] at proper
      have properBelow :=
        (of_entriesProper proper (Keyed.mem_of_get?_eq_some next below entries held)).2.2.2
      have deeper := inductionHypothesis below (base ++ [next]) properBelow further
      have sameLoss : base ++ [next] ++ rest ++ [name] = base ++ next :: rest ++ [name] := by simp
      rw [sameLoss] at deeper
      have changed := entriesWithout_eq_put (fun lost => lost == base ++ next :: rest ++ [name])
        base next below entries proper held (by simp) fun other different later => by
          simp [different]
      rw [List.cons_append, update, Option.getD_some]
      dsimp only
      rw [show Keyed.get? next entries = some below from held, deeper, without, changed]

/-- Clearing a place in a directory leaves the tree without it. -/
theorem removeAt_eq_pruned {tree : Node} (proper : tree.isProper) (above : Place) (name : Text)
    (inside : ∃ entries, tree.at? above = some (.directory entries)) :
    tree.removeAt (above ++ [name]) = tree.pruned fun lost => lost == above ++ [name] := by
  rw [removeAt, update_none_eq tree [] above name proper inside]
  rfl

/-- Among the names that are left there is none but those that were held. -/
theorem mem_keys_of_mem_keys_entriesWithout (gone : Place → Bool) (place : Place) (name : Text)
    (entries : List (Text × Node)) (among : name ∈ Keyed.keys (entriesWithout gone place entries)) :
    name ∈ Keyed.keys entries := by
  induction entries with
  | nil => exact among
  | cons entry rest inductionHypothesis =>
    obtain ⟨held, node⟩ := entry
    rw [entriesWithout] at among
    split at among
    · exact List.mem_cons_of_mem _ (inductionHypothesis among)
    · rcases List.mem_cons.mp among with first | later
      · exact List.mem_cons.mpr (.inl first)
      · exact List.mem_cons_of_mem _ (inductionHypothesis later)

mutual
/-- What is left of a node is proper if the node is. -/
theorem isProper_without (gone : Place → Bool) (place : Place) (node : Node)
    (proper : node.isProper) : (node.without gone place).isProper := by
  cases node with
  | file content => rfl
  | link target => rfl
  | directory entries => exact entriesProper_entriesWithout gone place entries proper

/-- What is left of entries is proper if they are. -/
theorem entriesProper_entriesWithout (gone : Place → Bool) (place : Place)
    (entries : List (Text × Node)) (proper : entriesProper entries) :
    entriesProper (entriesWithout gone place entries) := by
  cases entries with
  | nil => rfl
  | cons entry rest =>
    obtain ⟨name, node⟩ := entry
    obtain ⟨named, once, properNode, properRest⟩ :=
      (entriesProper_cons_iff name node rest).mp proper
    have later := entriesProper_entriesWithout gone place rest properRest
    have below := isProper_without gone (place ++ [name]) node properNode
    rw [entriesWithout]
    split
    · exact later
    · have still : name ∉ Keyed.keys (entriesWithout gone place rest) :=
        fun among => once (mem_keys_of_mem_keys_entriesWithout gone place name rest among)
      exact (entriesProper_cons_iff _ _ _).mpr ⟨named, still, below, later⟩
end

/-- Whether a place is the one of a name in some directory of a tree. -/
def IsNamed (tree : Node) (lost : Place) : Prop :=
  ∃ above name entries, lost = above ++ [name] ∧ tree.at? above = some (directory entries)

/-- Clearing places of files and links in turn leaves the tree without all of them. -/
theorem foldl_removeAt_eq_pruned {tree : Node} (proper : tree.isProper) (places : List Place)
    (named : ∀ lost ∈ places, tree.IsNamed lost)
    (files : tree.LosesNoDirectory fun lost => places.contains lost) :
    places.foldl removeAt tree = tree.pruned fun lost => places.contains lost := by
  induction places generalizing tree with
  | nil => exact (without_of_apart _ [] tree fun _ _ => rfl).symm
  | cons first rest inductionHypothesis =>
    obtain ⟨above, name, entries, rfl, inside⟩ := named _ List.mem_cons_self
    have cleared := removeAt_eq_pruned proper above name ⟨entries, inside⟩
    have noDirectory : tree.LosesNoDirectory fun lost => lost == above ++ [name] :=
      fun place inner gone => files place inner (by simp [beq_iff_eq.mp gone])
    -- The other places are named in what is left as they were, and nothing new stands there.
    have namedStill : ∀ lost ∈ rest, (tree.removeAt (above ++ [name])).IsNamed lost := by
      intro lost among
      obtain ⟨outer, other, inner, same, stands⟩ := named lost (List.mem_cons_of_mem _ among)
      have kept : (outer == above ++ [name]) = false :=
        Bool.eq_false_iff.mpr fun lost => noDirectory outer inner lost stands
      rw [cleared]
      exact ⟨outer, other, _, same, noDirectory.at? stands kept⟩
    have filesStill : (tree.removeAt (above ++ [name])).LosesNoDirectory
        fun lost => rest.contains lost := by
      intro place inner gone stands
      rw [cleared] at stands
      obtain ⟨stood, before, same⟩ := exists_of_at?_pruned stands
      obtain ⟨entries, rfl, -⟩ := exists_of_directory_eq_without _ same
      exact files place entries (by simp [List.contains_iff_mem.mp gone]) before
    have properStill : (tree.removeAt (above ++ [name])).isProper := by
      rw [cleared]
      exact isProper_without _ [] tree proper
    rw [List.foldl_cons, inductionHypothesis properStill namedStill filesStill, cleared, pruned,
      pruned, without_without]
    exact congrArg (fun gone => tree.without gone [])
      (funext fun lost => List.contains_cons.symm)

end TagAudit.Node
