import Meshpoint.TarArchive

/-!
# The path of a URL

The path of an absolute URL lies between its authority and its query, and whoever fetches it
removes the dot segments first; an encoded dot counts as one.

A path begins with the names it is built from as long as these are no dot segments and none that
follows goes up (`prefix_removeDotSegments`).
-/

namespace UrlPath

open TarArchive

/-! ### Parts of a URL -/

/-- What follows `://`. -/
def afterScheme : List Char → List Char
  | ':' :: '/' :: '/' :: rest => rest
  | _ :: rest => afterScheme rest
  | [] => []

def endsAuthority (c : Char) : Bool := c = '/' || c = '?' || c = '#'

def endsPath (c : Char) : Bool := c = '?' || c = '#'

def path (url : List Char) : List Char :=
  ((afterScheme url).dropWhile (!endsAuthority ·)).takeWhile (!endsPath ·)

/-- The segments of the path, which starts with a slash. -/
def pathSegments (url : List Char) : Path := segments ((path url).drop 1)

/-! ### Dot segments -/

/-- `%2e` is a dot. -/
def decodeDots : List Char → List Char
  | '%' :: '2' :: 'e' :: rest => '.' :: decodeDots rest
  | '%' :: '2' :: 'E' :: rest => '.' :: decodeDots rest
  | c :: rest => c :: decodeDots rest
  | [] => []

def isSingleDot (name : List Char) : Bool := decodeDots name = ['.']

def isDoubleDot (name : List Char) : Bool := decodeDots name = ['.', '.']

/-- Remove the dot segments of what follows the segments `kept`.  A dot segment at the end
    leaves a slash. -/
def removeFrom (kept : Path) : Path → Path
  | [] => kept
  | name :: rest =>
    if isSingleDot name then if rest = [] then kept ++ [[]] else removeFrom kept rest
    else if isDoubleDot name then
      if rest = [] then kept.dropLast ++ [[]] else removeFrom kept.dropLast rest
    else removeFrom (kept ++ [name]) rest

def removeDotSegments (names : Path) : Path := removeFrom [] names

theorem decodeDots_of_not_mem {name : List Char} (h : '%' ∉ name) : decodeDots name = name := by
  induction name with
  | nil => rfl
  | cons c rest ih =>
    rw [List.mem_cons, not_or] at h
    rw [decodeDots, ih h.2]
    · intro rest' hc
      exact absurd hc.symm h.1
    · intro rest' hc
      exact absurd hc.symm h.1

theorem removeFrom_append {names : Path}
    (h : ∀ name ∈ names, isSingleDot name = false ∧ isDoubleDot name = false) (kept rest : Path) :
    removeFrom kept (names ++ rest) = removeFrom (kept ++ names) rest := by
  induction names generalizing kept with
  | nil => rw [List.append_nil, List.nil_append]
  | cons name names ih =>
    rw [List.forall_mem_cons] at h
    rw [List.cons_append, removeFrom, h.1.1, h.1.2, if_neg Bool.false_ne_true,
      if_neg Bool.false_ne_true, ih h.2, List.append_assoc, List.singleton_append]

theorem prefix_removeFrom {kept names : Path} (h : ∀ name ∈ names, isDoubleDot name = false) :
    kept <+: removeFrom kept names := by
  induction names generalizing kept with
  | nil => exact List.prefix_refl kept
  | cons name names ih =>
    rw [List.forall_mem_cons] at h
    rw [removeFrom, h.1, if_neg Bool.false_ne_true]
    split
    · split
      · exact List.prefix_append kept [[]]
      · exact ih h.2
    · exact (List.prefix_append kept [name]).trans (ih h.2)

/-- Names that are no dot segments stay at the start when nothing after them goes up. -/
theorem prefix_removeDotSegments {base rest : Path}
    (hbase : ∀ name ∈ base, isSingleDot name = false ∧ isDoubleDot name = false)
    (hrest : ∀ name ∈ rest, isDoubleDot name = false) :
    base <+: removeDotSegments (base ++ rest) := by
  rw [removeDotSegments, removeFrom_append hbase, List.nil_append]
  exact prefix_removeFrom hrest

/-! ### URLs that are put together -/

theorem segments_append (first second : List Char) :
    segments (first ++ '/' :: second) = segments first ++ segments second := by
  induction first with
  | nil => rfl
  | cons c first ih =>
    simp only [List.cons_append, segments, ih]
    split
    · rfl
    · cases hfirst : segments first with
      | nil => exact absurd hfirst (segments_ne_nil first)
      | cons name names => rfl

theorem mem_of_mem_segments {name segment : List Char} {c : Char} (h : segment ∈ segments name)
    (hc : c ∈ segment) : c ∈ name := by
  induction name generalizing segment with
  | nil =>
    obtain rfl := List.mem_singleton.mp h
    exact absurd hc List.not_mem_nil
  | cons b rest ih =>
    simp only [segments] at h
    split at h
    · obtain rfl | hrest := List.mem_cons.mp h
      · exact absurd hc List.not_mem_nil
      · exact List.mem_cons_of_mem b (ih hrest hc)
    · split at h
      · obtain rfl := List.mem_singleton.mp h
        exact List.mem_cons.mpr (.inl (List.mem_singleton.mp hc))
      · rename_i first more hrest
        obtain rfl | hmore := List.mem_cons.mp h
        · obtain rfl | hfirst := List.mem_cons.mp hc
          · exact List.mem_cons_self
          · exact List.mem_cons_of_mem b (ih (hrest ▸ List.mem_cons_self) hfirst)
        · exact List.mem_cons_of_mem b (ih (hrest ▸ List.mem_cons_of_mem _ hmore) hc)

theorem afterScheme_append {scheme : List Char} (h : ':' ∉ scheme) (rest : List Char) :
    afterScheme (scheme ++ ':' :: '/' :: '/' :: rest) = rest := by
  induction scheme with
  | nil => rfl
  | cons c scheme ih =>
    rw [List.mem_cons, not_or] at h
    rw [List.cons_append, afterScheme, ih h.2]
    intro rest' hc
    exact absurd hc.symm h.1

theorem pathSegments_append {scheme authority names query : List Char} (hscheme : ':' ∉ scheme)
    (hauthority : ∀ c ∈ authority, endsAuthority c = false)
    (hnames : ∀ c ∈ names, endsPath c = false) (hquery : query = [] ∨ query.head? = some '?') :
    pathSegments (scheme ++ ':' :: '/' :: '/' :: (authority ++ '/' :: (names ++ query))) =
      segments names := by
  have hkeep : ('/' :: (names ++ query)).takeWhile (!endsPath ·) = '/' :: names := by
    rw [List.takeWhile_cons_of_pos (by decide), List.takeWhile_append_of_pos]
    · cases query with
      | nil => simp
      | cons c query =>
        obtain hnil | hhead := hquery
        · cases hnil
        · obtain rfl : c = '?' := by simpa using hhead
          simp [endsPath]
    · intro c hc
      simp [hnames c hc]
  rw [pathSegments, path, afterScheme_append hscheme, List.dropWhile_append_of_pos,
    List.dropWhile_cons_of_neg (by decide), hkeep, List.drop_succ_cons, List.drop_zero]
  intro c hc
  simp [hauthority c hc]

end UrlPath
