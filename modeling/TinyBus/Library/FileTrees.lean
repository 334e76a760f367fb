/-!
Directory trees: files, symbolic links, and directories of named children.

A place is the list of the names that lead to it from the top, through directories only.
What is done at a place leaves every other place as it was, unless it is below.
-/

universe u v w

/-- A directory tree; directories and their entries may carry data of their own. -/
inductive FileTree (Name : Type u) (Info : Type v) (Entry : Type w) where
  | file
  | link
  | dir (info : Info) (children : List (Name × Entry × FileTree Name Info Entry))

namespace FileTree

variable {Name : Type u} {Info : Type v} {Entry : Type w}

def isDir : FileTree Name Info Entry → Bool
  | .dir _ _ => true
  | _ => false

/-- What is seen of a place without reading it. -/
inductive Shape (Info : Type v) where
  | file
  | link
  | dir (info : Info)

def shape : FileTree Name Info Entry → Shape Info
  | .file => .file
  | .link => .link
  | .dir info _ => .dir info

variable [DecidableEq Name]

def childAmong (name : Name) :
    List (Name × Entry × FileTree Name Info Entry) → Option (FileTree Name Info Entry)
  | [] => none
  | (other, _, tree) :: rest => if other = name then some tree else childAmong name rest

def child (name : Name) : FileTree Name Info Entry → Option (FileTree Name Info Entry)
  | .dir _ children => childAmong name children
  | _ => none

/-- What is at a place. -/
def lookup : FileTree Name Info Entry → List Name → Option (FileTree Name Info Entry)
  | tree, [] => some tree
  | tree, name :: rest => (tree.child name).bind (fun below => below.lookup rest)

def shapeAt (tree : FileTree Name Info Entry) (place : List Name) : Option (Shape Info) :=
  (tree.lookup place).map shape

def setAmong (name : Name) (kept : Option (FileTree Name Info Entry)) :
    List (Name × Entry × FileTree Name Info Entry) → List (Name × Entry × FileTree Name Info Entry)
  | [] => []
  | (other, entry, tree) :: rest =>
      if other = name then
        match kept with
        | none => rest
        | some kept => (other, entry, kept) :: rest
      else (other, entry, tree) :: setAmong name kept rest

def setChild (name : Name) (kept : Option (FileTree Name Info Entry)) :
    FileTree Name Info Entry → FileTree Name Info Entry
  | .dir info children => .dir info (setAmong name kept children)
  | tree => tree

/-- The tree with something else, or nothing, at a place. -/
def replaceAt : FileTree Name Info Entry → List Name → Option (FileTree Name Info Entry) →
    Option (FileTree Name Info Entry)
  | _, [], kept => kept
  | tree, name :: rest, kept =>
      match tree.child name with
      | none => some tree
      | some below => some (tree.setChild name (below.replaceAt rest kept))

/-- The tree after a removal, which may leave something at the place. -/
def removeAt (tree : FileTree Name Info Entry) (place : List Name)
    (left : Option (FileTree Name Info Entry)) : FileTree Name Info Entry :=
  (tree.replaceAt place left).getD tree

variable {tree : FileTree Name Info Entry}

variable {name : Name} {below : FileTree Name Info Entry} {left : Option (FileTree Name Info Entry)}

theorem childAmong_set_of_ne {other : Name} {kept : Option (FileTree Name Info Entry)}
    (different : other ≠ name) (children : List (Name × Entry × FileTree Name Info Entry)) :
    childAmong other (setAmong name kept children) = childAmong other children := by
  induction children with
  | nil => rfl
  | cons first rest ih =>
      obtain ⟨head, entry, below⟩ := first
      unfold setAmong
      by_cases same : head = name
      · rw [if_pos same]
        have apart : head ≠ other := fun is => different (is.symm.trans same)
        cases kept with
        | none =>
            change _ = childAmong other ((head, entry, below) :: rest)
            rw [childAmong, if_neg apart]
        | some kept =>
            change childAmong other ((head, entry, kept) :: rest) = _
            rw [childAmong, childAmong, if_neg apart, if_neg apart]
      · rw [if_neg same, childAmong, childAmong, ih]

theorem childAmong_set_self {kept : FileTree Name Info Entry}
    {children : List (Name × Entry × FileTree Name Info Entry)} {was : FileTree Name Info Entry}
    (found : childAmong name children = some was) :
    childAmong name (setAmong name (some kept) children) = some kept := by
  induction children with
  | nil => cases found
  | cons first rest ih =>
      obtain ⟨head, entry, below⟩ := first
      unfold setAmong
      by_cases same : head = name
      · rw [if_pos same]
        change childAmong name ((head, entry, kept) :: rest) = _
        rw [childAmong, if_pos same]
      · rw [if_neg same, childAmong, if_neg same]
        rw [childAmong, if_neg same] at found
        exact ih found

theorem child_set_of_ne {other : Name} {kept : Option (FileTree Name Info Entry)}
    (different : other ≠ name) : (tree.setChild name kept).child other = tree.child other := by
  cases tree with
  | file => rfl
  | link => rfl
  | dir info children => exact childAmong_set_of_ne different children

theorem child_set_self {kept was : FileTree Name Info Entry} (found : tree.child name = some was) :
    (tree.setChild name (some kept)).child name = some kept := by
  cases tree with
  | file => cases found
  | link => cases found
  | dir info children => exact childAmong_set_self found

theorem shape_setChild (name : Name) (kept : Option (FileTree Name Info Entry)) :
    (tree.setChild name kept).shape = tree.shape := by
  cases tree <;> rfl

theorem replaceAt_cons (name : Name) (rest : List Name)
    (left : Option (FileTree Name Info Entry)) :
    tree.replaceAt (name :: rest) left = some (tree.removeAt (name :: rest) left) := by
  unfold removeAt
  rw [replaceAt]
  cases tree.child name <;> rfl

theorem removeAt_cons {rest : List Name} (found : tree.child name = some below) (more : rest ≠ []) :
    tree.removeAt (name :: rest) left = tree.setChild name (some (below.removeAt rest left)) := by
  cases rest with
  | nil => exact absurd rfl more
  | cons next rest =>
      rw [← replaceAt_cons]
      unfold removeAt
      rw [replaceAt, found]
      rfl

theorem removeAt_of_absent {rest : List Name} (absent : tree.child name = none) :
    tree.removeAt (name :: rest) left = tree := by
  unfold removeAt
  rw [replaceAt, absent]
  rfl

theorem removeAt_singleton (found : tree.child name = some below) :
    tree.removeAt [name] left = tree.setChild name left := by
  unfold removeAt
  rw [replaceAt, found]
  rfl

/-- A removal leaves the shape of every place that is not at or below its own. -/
theorem shapeAt_removeAt {place other : List Name} (apart : ¬ place <+: other) :
    (tree.removeAt place left).shapeAt other = tree.shapeAt other := by
  induction place generalizing tree other with
  | nil => exact absurd List.nil_prefix apart
  | cons name rest ih =>
      cases found : tree.child name with
      | none => rw [removeAt_of_absent found]
      | some below =>
          cases other with
          | nil =>
              by_cases last : rest = []
              · rw [last, removeAt_singleton found]
                exact congrArg some (shape_setChild name left)
              · rw [removeAt_cons found last]
                exact congrArg some (shape_setChild name _)
          | cons first others =>
              unfold shapeAt lookup
              by_cases same : first = name
              · subst same
                have inside : ¬ rest <+: others := fun below =>
                  apart ((List.cons_prefix_cons).mpr ⟨rfl, below⟩)
                have last : rest ≠ [] := by
                  rintro rfl
                  exact inside List.nil_prefix
                rw [removeAt_cons found last, child_set_self found, found]
                exact ih inside
              · by_cases last : rest = []
                · rw [last, removeAt_singleton found, child_set_of_ne same]
                · rw [removeAt_cons found last, child_set_of_ne same]

/-- A removal leaves all that is at a place which is neither above nor below its own. -/
theorem lookup_removeAt {place other : List Name} (apart : ¬ place <+: other)
    (aside : ¬ other <+: place) :
    (tree.removeAt place left).lookup other = tree.lookup other := by
  induction place generalizing tree other with
  | nil => exact absurd List.nil_prefix apart
  | cons name rest ih =>
      cases found : tree.child name with
      | none => rw [removeAt_of_absent found]
      | some below =>
          cases other with
          | nil => exact absurd List.nil_prefix aside
          | cons first others =>
              rw [lookup, lookup]
              by_cases same : first = name
              · subst same
                have inside : ¬ rest <+: others := fun below =>
                  apart ((List.cons_prefix_cons).mpr ⟨rfl, below⟩)
                have beside : ¬ others <+: rest := fun above =>
                  aside ((List.cons_prefix_cons).mpr ⟨rfl, above⟩)
                have last : rest ≠ [] := by
                  rintro rfl
                  exact inside List.nil_prefix
                rw [removeAt_cons found last, child_set_self found, found]
                exact ih inside beside
              · by_cases last : rest = []
                · rw [last, removeAt_singleton found, child_set_of_ne same]
                · rw [removeAt_cons found last, child_set_of_ne same]

theorem mem_of_childAmong {children : List (Name × Entry × FileTree Name Info Entry)}
    (found : childAmong name children = some below) :
    ∃ entry, (name, entry, below) ∈ children := by
  induction children with
  | nil => cases found
  | cons first rest ih =>
      obtain ⟨head, entry, tree⟩ := first
      rw [childAmong] at found
      by_cases same : head = name
      · rw [if_pos same] at found
        cases found
        exact ⟨entry, same ▸ List.mem_cons_self⟩
      · rw [if_neg same] at found
        obtain ⟨entry, among⟩ := ih found
        exact ⟨entry, List.mem_cons_of_mem _ among⟩

end FileTree
