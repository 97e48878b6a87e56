import BuildTargets.Flavor.Basic
import BuildTargets.Text.Basic

/-!
# Sets of flavors

A target carries a set of flavors. The set is kept as a list in strictly increasing order of
the flavors' text, so each member appears once, and the set is written as its members joined
by commas. Two sets built from the same members in any order, with any repeats, are the same
list and so print the same.

`ofList` inserts the members one by one into the ordered list; `parse` reads the text after
`#` in a label.
-/

namespace BuildTargets

/-- A set of flavors, held in strictly increasing order of their text. -/
structure FlavorSet where
  toList : List Flavor
  sorted : toList.Pairwise (· < ·)
  deriving DecidableEq, Repr, Hashable

attribute [ext] FlavorSet

/-- Why the text after `#` is no flavor list. -/
inductive FlavorListError where
  | emptyList
  | flavor (e : FlavorError)
  deriving DecidableEq, Repr

namespace FlavorListError

def message : FlavorListError → String
  | .emptyList => "Flavor list after `#` is empty"
  | .flavor e => e.message

end FlavorListError

namespace FlavorSet

def empty : FlavorSet := ⟨[], .nil⟩

instance : Inhabited FlavorSet := ⟨empty⟩

/-- Puts `f` into an ascending list in front of the first larger flavor, and leaves the list
alone when `f` is already in it. -/
def insertOrdered (f : Flavor) : List Flavor → List Flavor
  | [] => [f]
  | g :: gs =>
    if f < g then f :: g :: gs
    else if f = g then g :: gs
    else g :: insertOrdered f gs

theorem mem_insertOrdered {f x : Flavor} {l : List Flavor} :
    x ∈ insertOrdered f l ↔ x = f ∨ x ∈ l := by
  induction l with
  | nil => simp [insertOrdered]
  | cons g gs ih =>
    unfold insertOrdered
    split
    · simp
    · split
      · rename_i heq
        subst heq
        simp
      · simp only [List.mem_cons, ih]
        exact or_left_comm

/-- Inserting into an ascending list keeps it ascending. -/
theorem pairwise_insertOrdered {f : Flavor} {l : List Flavor} (h : l.Pairwise (· < ·)) :
    (insertOrdered f l).Pairwise (· < ·) := by
  induction l with
  | nil => simp [insertOrdered]
  | cons g gs ih =>
    rw [List.pairwise_cons] at h
    unfold insertOrdered
    split
    · rename_i hfg
      refine List.pairwise_cons.2 ⟨fun x hx => ?_, List.pairwise_cons.2 h⟩
      rcases List.mem_cons.1 hx with rfl | hx
      · exact hfg
      · exact Flavor.lt_trans hfg (h.1 x hx)
    · split
      · exact List.pairwise_cons.2 h
      · rename_i hlt hne
        -- The flavor goes after `g`, which is smaller.
        have hgf : g < f := Flavor.lt_of_not_lt_of_ne hlt hne
        refine List.pairwise_cons.2 ⟨fun x hx => ?_, ih h.2⟩
        rcases mem_insertOrdered.1 hx with rfl | hx
        · exact hgf
        · exact h.1 x hx

theorem pairwise_foldl_insertOrdered {acc fs : List Flavor} (h : acc.Pairwise (· < ·)) :
    (fs.foldl (fun acc f => insertOrdered f acc) acc).Pairwise (· < ·) := by
  induction fs generalizing acc with
  | nil => exact h
  | cons f fs ih => exact ih (pairwise_insertOrdered h)

/-- The set of the given flavors. -/
def ofList (fs : List Flavor) : FlavorSet :=
  ⟨fs.foldl (fun acc f => insertOrdered f acc) [], pairwise_foldl_insertOrdered .nil⟩

def isEmpty (s : FlavorSet) : Bool := s.toList.isEmpty

def size (s : FlavorSet) : Nat := s.toList.length

/-- Binary search for `f` in the stretch of `size ≥ 1` members that starts at `base`. Each
probe halves the stretch: it keeps the part before the middle member when that member is larger
than `f`, and the part from the middle member on otherwise. The answer is how the one member
left compares with `f`. -/
def probe (xs : List Flavor) (f : Flavor) (base size : Nat) (hsize : 0 < size)
    (hfit : base + size ≤ xs.length) : Ordering :=
  if h : 1 < size then
    have hmid : base + size / 2 < xs.length := by omega
    if compare xs[base + size / 2] f = .gt then
      probe xs f base (size - size / 2) (by omega) (by omega)
    else probe xs f (base + size / 2) (size - size / 2) (by omega) (by omega)
  else
    have hbase : base < xs.length := by omega
    compare xs[base] f
termination_by size
decreasing_by all_goals omega

/-- Whether `f` is a member, by binary search over the ordered members. -/
def contains (s : FlavorSet) (f : Flavor) : Bool :=
  if h : 0 < s.toList.length then probe s.toList f 0 s.toList.length h (by omega) == .eq
  else false

/-- The members for which `known` is false, in order. -/
def difference (s : FlavorSet) (known : Flavor → Bool) : FlavorSet :=
  ⟨s.toList.filter fun f => !known f, s.sorted.filter _⟩

/-- The members joined by `sep`. -/
def join (s : FlavorSet) (sep : String) : String :=
  sep.intercalate (s.toList.map Flavor.tag)

/-- The set as written in a label: its members joined by commas. -/
def display (s : FlavorSet) : String := s.join ","

/-- Reads a comma-separated flavor list. The empty text is refused, and otherwise the first
element that is no flavor decides the error. -/
def parse (s : String) : Except FlavorListError FlavorSet :=
  if s.isEmpty then .error .emptyList
  else match (Text.splitOnChar ',' s).mapM Flavor.ofString with
    | .ok fs => .ok (ofList fs)
    | .error e => .error (.flavor e)

/-- Sets compare as their ordered member lists, member by member. -/
instance : Ord FlavorSet := ⟨fun a b => List.compareLex compare a.toList b.toList⟩

end FlavorSet

example : (FlavorSet.ofList [⟨"b", by decide⟩, ⟨"a", by decide⟩, ⟨"b", by decide⟩]).display =
    "a,b" := by decide

end BuildTargets
