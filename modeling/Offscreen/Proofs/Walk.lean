import Offscreen.Proofs.Parent
import Offscreen.Scratch.Walk

/-!
# Walks through a tree

What a path leads to depends on the nodes of the tree alone, and on the working directory only if the path is
relative (`resolve_of_working`). A walk that ends at a node other than a directory cannot go on, so no path
leads below such a node (`resolve_below_ne_ok`).
-/

namespace Offscreen.Scratch.Tree
set_option autoImplicit false

variable {tree : Tree} {path : Bytes} {location : Location} {node : Node}

section

variable {a b : Tree} (same : ∀ location, a.node? location = b.node? location)
include same

theorem walkAlong_congr (follow : Bool) (through : Location → List Bytes → Except IoFault Arrival)
    (position : Location) (names : List Bytes) :
    a.walkAlong follow through position names = b.walkAlong follow through position names := by
  induction names generalizing position with
  | nil => rfl
  | cons name rest ih => simp only [walkAlong, same, ih]

/-- Trees that have the same nodes are walked alike. -/
theorem walk_congr (follow : Bool) (links : Nat) : a.walk follow links = b.walk follow links := by
  induction links with
  | zero => exact funext₂ (walkAlong_congr same follow _)
  | succ links ih =>
    rw [walk, walk, ih]
    exact funext₂ (walkAlong_congr same follow _)

end

theorem resolve_of_working (tree : Tree) (working : Location) (absolute : Path.isAbsolute path = true) :
    ({ tree with working := working } : Tree).resolve path = tree.resolve path := by
  have walked := walk_congr (a := { tree with working := working }) (b := tree) (fun _ => rfl) true linkLimit
  simp only [resolve, arrive, absolute, if_true, walked]

section

variable {through : Location → List Bytes → Except IoFault Arrival} {links : Nat} {position : Location}
  {names more : List Bytes} (other : node ≠ .directory) (further : more ≠ [])
include other further

theorem walkAlong_append_of_found
    (goes : ∀ position names, through position names = .ok (.found location node) →
      through position (names ++ more) = .error .notDirectory)
    (found : tree.walkAlong true through position names = .ok (.found location node)) :
    tree.walkAlong true through position (names ++ more) = .error .notDirectory := by
  fun_induction tree.walkAlong true through position names with
  | case1 =>
    cases found
    exact absurd rfl other
  | case2 position name rest passed ih =>
    rw [List.cons_append, walkAlong, if_pos passed]
    exact ih found
  | case3 position rest apart ih =>
    rw [List.cons_append, walkAlong, if_neg apart, if_pos rfl]
    exact ih found
  | case7 position name rest apart up short place node ih =>
    rw [List.cons_append, walkAlong, if_neg apart, if_neg up, if_neg short]
    simp only [place, node] at ih ⊢
    exact ih found
  | case9 position name rest apart up short place target node follows start =>
    -- a link on the way is walked through its target, with what follows behind it
    have stays : ¬(rest ++ more = [] ∧ (!true) = true) := by simp
    rw [List.cons_append, walkAlong, if_neg apart, if_neg up, if_neg short]
    simp only [place, node, if_neg stays]
    rw [← List.append_assoc]
    exact goes _ _ found
  | case10 position name apart up short place last ne_directory ne_link at_place =>
    rw [List.cons_append, List.nil_append, walkAlong, if_neg apart, if_neg up, if_neg short]
    simp only [place] at at_place
    simp only [at_place, if_neg further]
  | case4 | case5 | case6 | case11 => cases found
  | case8 =>
    rename_i stays
    cases stays.2

/-- A walk that ends at a node other than a directory cannot go on. -/
theorem walk_append_of_found (found : tree.walk true links position names = .ok (.found location node)) :
    tree.walk true links position (names ++ more) = .error .notDirectory := by
  induction links generalizing position names with
  | zero => exact walkAlong_append_of_found other further nofun found
  | succ links ih => exact walkAlong_append_of_found other further (fun _ _ => ih) found

end

theorem walk_of_resolve (found : tree.resolve path = .ok (location, node)) :
    path ≠ [] ∧ tree.walk true linkLimit (if Path.isAbsolute path then [] else tree.working) (path.splitOn slash) =
      .ok (.found location node) := by
  have arrived : tree.arrive true path = .ok (.found location node) := by
    revert found
    cases e : tree.arrive true path with
    | error cause => simp [resolve, e]
    | ok arrival => cases arrival <;> simp [resolve, e]
  simp only [arrive] at arrived
  split at arrived
  · cases arrived
  · split at arrived
    · cases arrived
    · rename_i nonempty
      split at arrived
      · cases arrived
      · exact ⟨nonempty, arrived⟩

/-- Below a node other than a directory nothing stands. -/
theorem resolve_below_ne_ok (found : tree.resolve path = .ok (location, node)) (other : node ≠ .directory)
    (rest : Bytes) (entry : Location × Node) : tree.resolve (path ++ slash :: rest) ≠ .ok entry := by
  intro below
  obtain ⟨nonempty, walked⟩ := walk_of_resolve found
  have start : Path.isAbsolute path = Path.isAbsolute (path ++ slash :: rest) :=
    Path.isAbsolute_of_prefix nonempty (List.prefix_append path (slash :: rest))
  have stopped := walk_append_of_found other (List.splitOn_ne_nil slash rest) walked
  rw [start, ← List.splitOn_append_cons_self, (walk_of_resolve below).2] at stopped
  cases stopped

end Offscreen.Scratch.Tree
