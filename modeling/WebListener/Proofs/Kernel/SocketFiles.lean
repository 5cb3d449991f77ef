import WebListener.Kernel.SocketFile
-- The file of a local socket: it stands where its path leads from the bind on, it keeps others from
-- binding there, and the path is free again once it has been removed.
namespace WebListener.Kernel.FileTree

variable {tree other after : FileTree} {place found : Place} {path : Path} {access : Access}

theorem lookup_filter (entries : List (Place × Node)) (place asked : Place) :
    (entries.filter (·.1 != place)).lookup asked =
      if asked = place then none else entries.lookup asked := by
  induction entries with
  | nil => simp
  | cons entry rest ih =>
    obtain ⟨here, node⟩ := entry
    by_cases erased : here = place
    · subst erased
      by_cases same : asked = here
      · subst same
        simpa using ih
      · have differ : (asked == here) = false := by simpa using same
        simpa [List.lookup_cons, differ, same] using ih
    · have kept : (here != place) = true := by simpa using erased
      by_cases same : asked = here
      · subst same
        simp [kept, erased]
      · have differ : (asked == here) = false := by simpa using same
        simpa [List.lookup_cons, kept, differ] using ih

theorem ne_of_vacant (vacant : tree.node? place = none) : place ≠ [] := by
  rintro rfl
  cases vacant

theorem node?_put {node : Node} (elsewhere : place ≠ []) (asked : Place) :
    (tree.put place node).node? asked = if asked = place then some node else tree.node? asked := by
  cases asked with
  | nil => simp [node?, elsewhere.symm]
  | cons name names =>
    by_cases same : name :: names = place
    · subst same
      simp [node?, put]
    · have differ : (name :: names == place) = false := by simpa using same
      simp [node?, put, List.lookup_cons, lookup_filter, differ, same]

theorem node?_erase (elsewhere : place ≠ []) (asked : Place) :
    (tree.erase place).node? asked = if asked = place then none else tree.node? asked := by
  cases asked with
  | nil => simp [node?, elsewhere.symm]
  | cons name names => simp [node?, erase, lookup_filter]

theorem granted_iff : tree.granted access place = .ok () ↔ tree.denial access place = none := by
  unfold granted
  split <;> simp_all

theorem passable_iff : tree.passable place = .ok () ↔
    tree.node? place = some .directory ∧ tree.denial .pass place = none := by
  rw [← granted_iff]
  unfold passable
  split <;> simp_all

-- All that can be passed in one tree can be passed in the other, which has the same beginnings.
structure Widens (tree other : FileTree) : Prop where
  working : other.working = tree.working
  passable : ∀ place, tree.passable place = .ok () → other.passable place = .ok ()

theorem walk_kept (widens : Widens tree other) (names : List String)
    (walked : tree.walk place names = .ok found) : other.walk place names = .ok found := by
  induction names generalizing place with
  | nil => exact walked
  | cons name rest ih =>
    unfold walk at walked ⊢
    cases passed : tree.passable place with
    | error cause => simp [passed, bind, Except.bind] at walked
    | ok _ =>
      cases entered : enter place name with
      | error cause => simp [passed, entered, bind, Except.bind] at walked
      | ok next =>
        simp only [passed, entered, bind, Except.bind] at walked
        simp only [widens.passable place passed, bind, Except.bind]
        exact ih walked

theorem locate_cases (path : Path) :
    (∃ cause, ∀ tree : FileTree, tree.locate path = .error cause) ∨
      ∀ tree : FileTree, tree.locate path = tree.walk (tree.start path) (names path) := by
  unfold locate
  split
  · exact .inl ⟨_, fun _ => rfl⟩
  · split
    · exact .inl ⟨_, fun _ => rfl⟩
    · split
      · exact .inl ⟨_, fun _ => rfl⟩
      · exact .inr fun _ => rfl

theorem locate_kept (widens : Widens tree other) (located : tree.locate path = .ok found) :
    other.locate path = .ok found := by
  rcases locate_cases path with ⟨cause, refused⟩ | followed
  · rw [refused] at located
    cases located
  · rw [followed, start] at located ⊢
    rw [widens.working]
    exact walk_kept widens _ located

structure Leads (tree : FileTree) (path : Path) (place : Place) (node : Option Node) : Prop where
  located : tree.locate path = .ok place
  stands : tree.node? place = node

theorem Leads.holds_iff {node : Option Node} (leads : Leads tree path place node) :
    tree.holds path = true ↔ node.isSome = true := by
  rw [holds, leads.located]
  dsimp only
  rw [leads.stands]

structure SocketPath (path : Path) : Prop where
  named : isAbstract path = false
  clean : path.toList.contains '\x00' = false
  short : path.utf8ByteSize < socketPathLimit
  bare : withoutTrailingSlashes path = path

theorem SocketPath.bindSocket {node : Option Node} (fit : SocketPath path)
    (leads : Leads tree path place node) :
    tree.bindSocket path = if node.isSome then .error (.os Errno.addressInUse)
      else (tree.granted .bind place).map fun _ => tree.put place .socket := by
  have short := Nat.not_le_of_lt fit.short
  simp only [FileTree.bindSocket, fit.named, fit.clean, short, bindFile, fit.bare, leads.located,
    bind, Except.bind, leads.stands]
  cases node with
  | some other => rfl
  | none => cases tree.granted .bind place <;> rfl

theorem bindSocket_parts (named : isAbstract path = false)
    (granted : tree.bindSocket path = .ok after) : SocketPath path ∧
      ∃ place, Leads tree path place none ∧ tree.denial .bind place = none ∧
        after = tree.put place .socket := by
  unfold bindSocket at granted
  split at granted
  · rename_i abstract
    rw [named] at abstract
    cases abstract
  · split at granted
    · cases granted
    · rename_i clean
      split at granted
      · cases granted
      · rename_i short
        unfold bindFile at granted
        cases located : tree.locate (withoutTrailingSlashes path) with
        | error cause => simp [located, bind, Except.bind] at granted
        | ok place =>
          simp only [located, bind, Except.bind] at granted
          split at granted
          · cases granted
          · rename_i vacant
            split at granted
            · rename_i bare
              split at granted
              · cases granted
              · rename_i free
                cases granted
                rw [bare] at located
                exact ⟨⟨named, by simpa using clean, Nat.lt_of_not_le short, bare⟩, place,
                  ⟨located, vacant⟩, granted_iff.mp free, rfl⟩
            · cases granted

-- Trees that differ only where nobody could pass lead all paths to the same places.
theorem widens_elsewhere (working : other.working = tree.working)
    (denial : other.denial = tree.denial) (impassable : tree.node? place ≠ some .directory)
    (same : ∀ asked, asked ≠ place → other.node? asked = tree.node? asked) :
    Widens tree other where
  working := working
  passable := by
    intro asked passed
    obtain ⟨directory, free⟩ := passable_iff.mp passed
    have elsewhere : asked ≠ place := fun here => impassable (here ▸ directory)
    exact passable_iff.mpr ⟨(same asked elsewhere).trans directory, by rw [denial]; exact free⟩

theorem put_widens (vacant : tree.node? place = none) :
    Widens tree (tree.put place .socket) := by
  have impassable : tree.node? place ≠ some .directory := by simp [vacant]
  refine widens_elsewhere rfl rfl impassable fun asked elsewhere => ?_
  rw [node?_put (ne_of_vacant vacant), if_neg elsewhere]

theorem put_leads (leads : Leads tree path place none) :
    Leads (tree.put place .socket) path place (some .socket) where
  located := locate_kept (put_widens leads.stands) leads.located
  stands := by rw [node?_put (ne_of_vacant leads.stands), if_pos rfl]

theorem erase_widens (stands : tree.node? place = some .socket) (below : place ≠ []) :
    Widens tree (tree.erase place) := by
  have impassable : tree.node? place ≠ some .directory := by simp [stands]
  refine widens_elsewhere rfl rfl impassable fun asked elsewhere => ?_
  rw [node?_erase below, if_neg elsewhere]

theorem remove_leads (leads : Leads tree path place (some .socket))
    (free : tree.denial .remove place = none) :
    ∃ after, tree.remove path = .ok after ∧ Leads after path place none ∧
      after.denial = tree.denial := by
  have elsewhere : place ≠ [] := by
    rintro rfl
    cases leads.stands
  refine ⟨tree.erase place, ?_, ⟨?_, ?_⟩, rfl⟩
  · simp only [remove, leads.located, bind, Except.bind, leads.stands, granted_iff.mpr free]
    rfl
  · exact locate_kept (erase_widens leads.stands elsewhere) leads.located
  · rw [node?_erase elsewhere, if_pos rfl]

-- The system lets the file at a path be removed, if there is one.
def Removable (tree : FileTree) (path : Path) : Prop :=
  ∀ place, tree.locate path = .ok place → tree.denial .remove place = none

theorem abstract_unheld (abstract : isAbstract path = true) (tree : FileTree) :
    tree.holds path = false := by
  have begins : path.toList.head? = some '\x00' := by simpa [isAbstract] using abstract
  have nul : path.toList.contains '\x00' = true := by
    cases chars : path.toList with
    | nil => simp [chars] at begins
    | cons c rest => simp_all
  have refused : tree.locate path = .error .nulInFileName := if_pos nul
  rw [holds, refused]

theorem abstract_bindSocket (abstract : isAbstract path = true)
    (granted : tree.bindSocket path = .ok after) (other : FileTree) :
    other.bindSocket path = .ok other := by
  unfold bindSocket at granted ⊢
  split at granted
  · split at granted
    · cases granted
    · rename_i short
      rw [if_pos abstract, if_neg short]
  · rename_i file
    exact absurd abstract file

end WebListener.Kernel.FileTree
