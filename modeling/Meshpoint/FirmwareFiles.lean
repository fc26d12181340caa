import Mathlib.Data.List.Infix
import Meshpoint.ByteCodec
import Meshpoint.FileTree
import Meshpoint.HostSession

/-!
# Files of a firmware cache

What the flash routes do to the disk, each as a session that may fail part of the way, by an
exception or by the end of the process. A `Disk` remembers the paths that were made, opened or
listed. `pathlib`'s `glob` is modelled with the patterns of `fnmatch`.

Each action has its rule (`meets_writeFile` and so on) between assertions `Runs`, of a process that
goes on, and `Left`, of one that raised or was killed.
-/

namespace Meshpoint.FirmwareFiles

open ByteCodec TarArchive HostSession

/-! ### The disk -/

/-- The files, the paths that were touched, and whether the process still runs. -/
structure Disk where
  tree : FileTree Bytes
  touched : List Path
  running : Bool

/-- How an action ends: it is done, or it raises or the process is killed after `n` steps of it
    (bytes of a file, directories of a path). -/
inductive Fault where
  | none
  | raised (n : Nat)
  | killed (n : Nat)
deriving DecidableEq

/-- The action does at least `size` steps. -/
def Fault.completes (fault : Fault) (size : Nat) : Bool :=
  match fault with
  | .none => true
  | .raised n => size ≤ n
  | .killed n => size ≤ n

/-- An action with a fault: `whole` is what it does, `part n` its first `n` steps. -/
def perform {α : Type} (fault : Fault) (whole : Disk → Option α × Disk) (part : Nat → Disk → Disk) :
    Session Disk α := fun d =>
  if d.running then
    match fault with
    | .none => whole d
    | .raised n => (none, part n d)
    | .killed n => (none, { part n d with running := false })
  else (none, d)

def located (path : Path) : Path :=
  path.foldl (fun here name => if name = ['.', '.'] then here.dropLast else here ++ [name]) []

/-- `folder / text`. -/
def joinText (folder : Path) (text : String) : Path :=
  if text.toList.head? = some '/' then components text.toList
  else folder ++ components text.toList

/-! ### Actions -/

def Disk.touch (d : Disk) (path : Path) : Disk := { d with touched := path :: d.touched }

/-- The directories along `names` from a directory: whether all of them are there then. -/
def mkdirs (here : Path) : List (List Char) → Disk → Bool × Disk
  | [], d => (true, d)
  | name :: rest, d =>
    if name = ['.', '.'] then mkdirs here.dropLast rest d
    else
      match d.tree.get? (here ++ [name]) with
      | none =>
        mkdirs (here ++ [name]) rest
          { d.touch (here ++ [name]) with tree := d.tree.put (here ++ [name]) .dir }
      | some .dir => mkdirs (here ++ [name]) rest d
      | some (.file _) => (false, d)

/-- `path.mkdir(parents=True, exist_ok=True)`. -/
def mkdir (path : Path) (fault : Fault) : Session Disk Unit :=
  perform fault
    (fun d =>
      let (made, d) := mkdirs [] path (d.touch (located path))
      (if made then some () else none, d))
    fun n d => (mkdirs [] (path.take n) d).2

/-- `path.exists()`. -/
def pathExists (path : Path) (fault : Fault) : Session Disk Bool :=
  perform fault
    (fun d => (some (d.tree.get? (located path)).isSome, d.touch (located path)))
    fun _ d => d.touch (located path)

/-- `path.read_text()`, before it is decoded. -/
def readFile (path : Path) (fault : Fault) : Session Disk Bytes :=
  perform fault
    (fun d =>
      match d.tree.get? (located path) with
      | some (.file content) => (some content, d.touch (located path))
      | _ => (none, d.touch (located path)))
    fun _ d => d.touch (located path)

/-- What is written to a file that is opened for writing; whether it can be opened. -/
def put (path : Path) (content : Bytes) (d : Disk) : Bool × Disk :=
  let d := d.touch (located path)
  if d.tree.get? (located path).dropLast ≠ some .dir then (false, d)
  else
    match d.tree.get? (located path) with
    | some .dir => (false, d)
    | _ => (true, { d with tree := d.tree.put (located path) (.file content) })

/-- `path.write_bytes(content)`, and the loop that writes a download: the file is truncated when
    it is opened. -/
def writeFile (path : Path) (content : Bytes) (fault : Fault) : Session Disk Unit :=
  perform fault
    (fun d =>
      let (opened, d) := put path content d
      (if opened then some () else none, d))
    fun n d => (put path (content.take n) d).2

/-- The tree without the file, if it can be removed. -/
def Disk.remove (d : Disk) (path : Path) : Option Unit × Disk :=
  match d.tree.removeFile (located path) with
  | some tree => (some (), { d.touch (located path) with tree := tree })
  | none => (none, d.touch (located path))

/-- `path.unlink(missing_ok=True)`. -/
def unlink (path : Path) (fault : Fault) : Session Disk Unit :=
  perform fault (fun d => d.remove path) fun n d =>
    if n = 0 then d.touch (located path) else (d.remove path).2

/-- The tree with the file under its new name, in the place of another file. -/
def Disk.move (d : Disk) (path dest : Path) : Option Unit × Disk :=
  let d := (d.touch (located path)).touch (located dest)
  match d.tree.get? (located path), d.tree.get? (located dest) with
  | some (.file _), some .dir => (none, d)
  | some (.file content), _ =>
    match d.tree.removeFile (located path) with
    | some tree => (some (), { d with tree := tree.put (located dest) (.file content) })
    | none => (none, d)
  | _, _ => (none, d)

/-- `path.rename(dest)`: done at once. -/
def rename (path dest : Path) (fault : Fault) : Session Disk Unit :=
  perform fault (fun d => d.move path dest) fun n d =>
    if n = 0 then (d.touch (located path)).touch (located dest) else (d.move path dest).2

/-- A value that may be missing, where the code raises. -/
def ofOption {α : Type} (value : Option α) : Session Disk α := fun d => (value, d)

def fileAt (t : FileTree Bytes) (path : Path) : Option Bytes :=
  match t.get? (located path) with
  | some (.file content) => some content
  | _ => none

/-! ### Patterns -/

/-- A part of a pattern of `fnmatch`. -/
inductive Token where
  | star
  | any
  | among (negated : Bool) (ranges : List (Char × Char))
  | lit (c : Char)
deriving DecidableEq

def ranges : List Char → List (Char × Char)
  | low :: '-' :: high :: rest => (low, high) :: ranges rest
  | c :: rest => (c, c) :: ranges rest
  | [] => []

/-- The inside of a set and what follows it; a bracket that stands first does not close it. -/
def splitSet : List Char → Option (List Char × List Char)
  | ']' :: rest =>
    if ']' ∈ rest then
      some (']' :: rest.takeWhile (· ≠ ']'), (rest.dropWhile (· ≠ ']')).drop 1)
    else none
  | inside =>
    if ']' ∈ inside then
      some (inside.takeWhile (· ≠ ']'), (inside.dropWhile (· ≠ ']')).drop 1)
    else none

/-- The tokens of a pattern, `[` without an end being a character like the others. -/
def tokens : Nat → List Char → List Token
  | 0, _ => []
  | _ + 1, [] => []
  | length + 1, c :: rest =>
    if c = '*' then .star :: tokens length rest
    else if c = '?' then .any :: tokens length rest
    else if c = '[' then
      let negated := rest.head? = some '!'
      match splitSet (if negated then rest.drop 1 else rest) with
      | some (inside, rest) => .among negated (ranges inside) :: tokens length rest
      | none => .lit c :: tokens length rest
    else .lit c :: tokens length rest

def matchesTokens : List Token → List Char → Bool
  | [], name => name.isEmpty
  | .star :: pattern, name => name.tails.any (matchesTokens pattern)
  | .any :: pattern, name =>
    match name with
    | [] => false
    | _ :: rest => matchesTokens pattern rest
  | .among negated ranges :: pattern, name =>
    match name with
    | [] => false
    | c :: rest => (ranges.any fun r => r.1 ≤ c && c ≤ r.2) != negated && matchesTokens pattern rest
  | .lit c :: pattern, name =>
    match name with
    | [] => false
    | d :: rest => c == d && matchesTokens pattern rest

/-- `fnmatch`, with case. -/
def fnmatch (name pattern : List Char) : Bool := matchesTokens (tokens pattern.length pattern) name

def below (t : FileTree Bytes) (here : Path) : List Path :=
  (t.nodes.filter fun node => here <+: node.1 ∧ node.2 = .dir).map Prod.fst

/-- The paths from a directory along the parts of a pattern. -/
def globFrom (t : FileTree Bytes) (here : Path) : List (List Char) → List Path
  | [] => [here]
  | part :: rest =>
    if part = ['.', '.'] then globFrom t here.dropLast rest
    else if part = ['*', '*'] then (below t here).flatMap fun path => globFrom t path rest
    else ((t.names here).filter fun name => fnmatch name part).flatMap fun name =>
      globFrom t (here ++ [name]) rest

/-- `list(path.glob(pattern))`; a pattern that is absolute or has `**` in a longer part raises. -/
def glob (path : Path) (pattern : String) (fault : Fault) : Session Disk (List Path) :=
  perform fault
    (fun d =>
      let parts := components pattern.toList
      let found := globFrom d.tree (located path) parts
      let d := { d with touched := found ++ located path :: d.touched }
      if pattern.toList.head? = some '/' then (none, d)
      else if parts.any fun part => part ≠ ['*', '*'] ∧ ['*', '*'] <:+: part then (none, d)
      else (some found, d))
    fun _ d => d.touch (located path)

/-! ### Rules of the actions -/

/-- The process runs, has touched only paths of `A`, and the tree is in `T`. -/
def Runs (A : Path → Prop) (T : FileTree Bytes → Prop) (d : Disk) : Prop :=
  d.running = true ∧ T d.tree ∧ ∀ path ∈ d.touched, A path

def Left (A : Path → Prop) (S : FileTree Bytes → Prop) (d : Disk) : Prop :=
  S d.tree ∧ ∀ path ∈ d.touched, A path

def Straight (path : Path) : Prop := ['.', '.'] ∉ path

theorem located_of_straight {path : Path} (h : Straight path) : located path = path := by
  have hfold : ∀ (here path : Path), Straight path →
      path.foldl (fun here name => if name = ['.', '.'] then here.dropLast else here ++ [name])
        here = here ++ path := by
    intro here path
    induction path generalizing here with
    | nil => exact fun _ => (List.append_nil here).symm
    | cons name rest ih =>
      intro hstraight
      rw [Straight, List.mem_cons, not_or] at hstraight
      have hne : name ≠ ['.', '.'] := Ne.symm hstraight.1
      rw [List.foldl_cons, if_neg hne, ih _ hstraight.2, List.append_assoc]
      rfl
  exact hfold [] path h

theorem take_of_completes {fault : Fault} {n : Nat} {content : Bytes}
    (hstops : fault = .raised n ∨ fault = .killed n)
    (h : fault.completes content.length = true) : content.take n = content := by
  have hle : content.length ≤ n := by
    rcases hstops with rfl | rfl
    · simpa [Fault.completes] using h
    · simpa [Fault.completes] using h
  exact List.take_of_length_le hle

theorem straight_append {root below : Path} (hroot : Straight root) (hbelow : Straight below) :
    Straight (root ++ below) :=
  fun hmem => (List.mem_append.mp hmem).elim hroot hbelow

theorem straight_singleton {name : List Char} (h : Plain name) : Straight [name] :=
  fun hmem => h.2.2.2 (List.mem_singleton.mp hmem).symm

theorem joinText_of_plain (folder : Path) {text : String} (h : Plain text.toList) :
    joinText folder text = folder ++ [text.toList] := by
  have hslash : text.toList.head? ≠ some '/' := by
    intro hhead
    exact h.1 (List.mem_of_mem_head? hhead)
  rw [joinText, if_neg hslash, components_of_plain h]

variable {A : Path → Prop} {T T' S : FileTree Bytes → Prop} {α : Type}

theorem Left.touch {d : Disk} (h : Left A S d) {path : Path} (hpath : A path) :
    Left A S (d.touch path) :=
  ⟨h.1, fun other hother => (List.mem_cons.mp hother).elim (fun heq => heq ▸ hpath) (h.2 other)⟩

theorem Runs.touch {d : Disk} (h : Runs A T d) {path : Path} (hpath : A path) :
    Runs A T (d.touch path) :=
  ⟨h.1, Left.touch h.2 hpath⟩

theorem Runs.imp {d : Disk} (hT : ∀ t, T t → T' t) (h : Runs A T d) : Runs A T' d :=
  ⟨h.1, hT _ h.2.1, h.2.2⟩

theorem Runs.left {d : Disk} (hT : ∀ t, T t → S t) (h : Runs A T d) : Left A S d :=
  ⟨hT _ h.2.1, h.2.2⟩

theorem meets_of_pure {φ : Prop} {m : Session Disk α} {Q : α → Disk → Prop} {E : Disk → Prop}
    (h : φ → Meets (Runs A T) m Q E) : Meets (Runs A fun t => T t ∧ φ) m Q E :=
  fun d hd => h hd.2.1.2 d ⟨hd.1, hd.2.1.1, hd.2.2⟩

theorem meets_perform {fault : Fault} {whole : Disk → Option α × Disk} {part : Nat → Disk → Disk}
    {Q : α → Disk → Prop} (hwhole : fault = .none → ∀ d, Runs A T d → Ends Q (Left A S) (whole d))
    (hpart : ∀ n, fault = .raised n ∨ fault = .killed n → ∀ d, Runs A T d → Left A S (part n d)) :
    Meets (Runs A T) (perform fault whole part) Q (Left A S) := by
  intro d hd
  unfold perform
  rw [if_pos hd.1]
  cases fault with
  | none => exact hwhole rfl d hd
  | raised n => exact hpart n (.inl rfl) d hd
  | killed n => exact hpart n (.inr rfl) d hd

theorem meets_imp {P : Disk → Prop} (R : Disk → Prop) {m : Session Disk α} {Q : α → Disk → Prop}
    {E : Disk → Prop} (h : Meets R m Q E) (hP : ∀ d, P d → R d) : Meets P m Q E :=
  fun d hd => h d (hP d hd)

theorem ofOption_some_bind {β : Type} (a : α) (f : α → Session Disk β) :
    (ofOption (some a) >>= f) = f a := rfl

theorem meets_ofOption_none_bind {β : Type} {P : Disk → Prop} {f : α → Session Disk β}
    {Q : β → Disk → Prop} {E : Disk → Prop} (h : ∀ d, P d → E d) :
    Meets P (ofOption none >>= f) Q E := h

theorem meets_ofOption {P : Disk → Prop} {Q : α → Disk → Prop} {E : Disk → Prop} {value : Option α}
    (hsome : ∀ a, value = some a → ∀ d, P d → Q a d) (hnone : ∀ d, P d → E d) :
    Meets P (ofOption value) Q E := by
  intro d hd
  cases value with
  | none => exact hnone d hd
  | some a => exact hsome a rfl d hd

theorem meets_pathExists {path : Path} (hstraight : Straight path) (hA : A path)
    (hS : ∀ t, T t → S t) (fault : Fault) :
    Meets (Runs A T) (pathExists path fault)
      (fun there => Runs A fun t => T t ∧ there = (t.get? path).isSome) (Left A S) := by
  unfold pathExists
  rw [located_of_straight hstraight]
  apply meets_perform
  · exact fun _ d hd => ⟨hd.1, ⟨hd.2.1, rfl⟩, (hd.touch hA).2.2⟩
  · exact fun _ _ d hd => (hd.touch hA).left hS

theorem meets_readFile {path : Path} (hstraight : Straight path) (hA : A path)
    (hS : ∀ t, T t → S t) (fault : Fault) :
    Meets (Runs A T) (readFile path fault)
      (fun content => Runs A fun t => T t ∧ t.get? path = some (.file content)) (Left A S) := by
  unfold readFile
  rw [located_of_straight hstraight]
  apply meets_perform
  · intro _ d hd
    split
    · rename_i content hget
      exact ⟨hd.1, ⟨hd.2.1, hget⟩, (hd.touch hA).2.2⟩
    · exact (hd.touch hA).left hS
  · exact fun _ _ d hd => (hd.touch hA).left hS

theorem put_eq {path : Path} (hstraight : Straight path) {d : Disk}
    (hparent : d.tree.get? path.dropLast = some .dir) (hpath : d.tree.get? path ≠ some .dir)
    (content : Bytes) :
    put path content d = (true, { d.touch path with tree := d.tree.put path (.file content) }) := by
  unfold put
  simp only [located_of_straight hstraight]
  have hopens : ¬ (d.touch path).tree.get? path.dropLast ≠ some .dir := not_not.mpr hparent
  rw [if_neg hopens]
  split
  · rename_i hdir
    exact absurd hdir hpath
  · rfl

theorem meets_writeFile {path : Path} (hstraight : Straight path) (hA : A path)
    (hparent : ∀ t, T t → t.get? path.dropLast = some .dir)
    (hpath : ∀ t, T t → t.get? path ≠ some .dir) {content : Bytes} {fault : Fault}
    (hwhole : fault = .none → ∀ t, T t → T' (t.put path (.file content)))
    (hpart : ∀ n, fault = .raised n ∨ fault = .killed n → ∀ t, T t →
      S (t.put path (.file (content.take n)))) :
    Meets (Runs A T) (writeFile path content fault) (fun _ => Runs A T') (Left A S) := by
  unfold writeFile
  apply meets_perform
  · intro hfault d hd
    rw [put_eq hstraight (hparent _ hd.2.1) (hpath _ hd.2.1)]
    exact ⟨hd.1, hwhole hfault _ hd.2.1, (hd.touch hA).2.2⟩
  · intro n hfault d hd
    rw [put_eq hstraight (hparent _ hd.2.1) (hpath _ hd.2.1)]
    exact ⟨hpart n hfault _ hd.2.1, (hd.touch hA).2.2⟩

/-- The second tree has further directories along the path, and nothing else is new. -/
def Along (path : Path) (t t' : FileTree Bytes) : Prop :=
  ∀ other, t'.get? other = t.get? other ∨
    (other <+: path ∧ t.get? other = none ∧ t'.get? other = some .dir)

theorem mkdirs_spec (here : Path) {rest : Path} (hrest : Straight rest) {d : Disk} :
    Along (here ++ rest) d.tree (mkdirs here rest d).2.tree ∧
      (mkdirs here rest d).2.running = d.running ∧
      (∀ path ∈ (mkdirs here rest d).2.touched, path ∈ d.touched ∨ path <+: here ++ rest) ∧
      ((mkdirs here rest d).1 = true → rest ≠ [] →
        (mkdirs here rest d).2.tree.get? (here ++ rest) = some .dir) := by
  induction rest generalizing here d with
  | nil => exact ⟨fun _ => .inl rfl, rfl, fun _ h => .inl h, fun _ h => absurd rfl h⟩
  | cons name rest ih =>
    rw [Straight, List.mem_cons, not_or] at hrest
    have hne : name ≠ ['.', '.'] := Ne.symm hrest.1
    have hassoc : here ++ name :: rest = here ++ [name] ++ rest := by simp
    have hfinal : ∀ d' : Disk, d'.tree.get? (here ++ [name]) = some .dir →
        (mkdirs (here ++ [name]) rest d').1 = true →
        (mkdirs (here ++ [name]) rest d').2.tree.get? (here ++ [name] ++ rest) = some .dir := by
      intro d' hdir hmade
      by_cases hnil : rest = []
      · subst hnil
        rw [List.append_nil]
        exact hdir
      · exact (ih (here ++ [name]) hrest.2).2.2.2 hmade hnil
    rw [hassoc]
    simp only [mkdirs, if_neg hne]
    split
    · rename_i hnone
      obtain ⟨halong, hrunning, htouched, -⟩ := ih (here ++ [name]) hrest.2
        (d := { d.touch (here ++ [name]) with tree := d.tree.put (here ++ [name]) .dir })
      refine ⟨fun other => ?_, hrunning, fun path hpath => ?_, fun hmade _ => ?_⟩
      · by_cases heq : other = here ++ [name]
        · subst heq
          rcases halong (here ++ [name]) with hsame | ⟨-, hput, -⟩
          · rw [FileTree.get?_put_self] at hsame
            exact .inr ⟨List.prefix_append _ _, hnone, hsame⟩
          · rw [FileTree.get?_put_self] at hput
            cases hput
        · have hother := halong other
          rwa [FileTree.get?_put_of_ne _ _ heq] at hother
      · rcases htouched path hpath with hmem | habove
        · rcases List.mem_cons.mp hmem with rfl | hmem
          · exact .inr (List.prefix_append _ _)
          · exact .inl hmem
        · exact .inr habove
      · exact hfinal _ (FileTree.get?_put_self _ _ _) hmade
    · rename_i hdir
      obtain ⟨halong, hrunning, htouched, -⟩ := ih (here ++ [name]) hrest.2 (d := d)
      exact ⟨halong, hrunning, htouched, fun hmade _ => hfinal d hdir hmade⟩
    · exact ⟨fun _ => .inl rfl, rfl, fun _ h => .inl h, fun h => absurd h Bool.false_ne_true⟩

theorem straight_take {path : Path} (h : Straight path) (n : Nat) : Straight (path.take n) :=
  fun hmem => h (List.mem_of_mem_take hmem)

theorem Along.take {path : Path} {n : Nat} {t t' : FileTree Bytes} (h : Along (path.take n) t t') :
    Along path t t' := by
  intro other
  rcases h other with hsame | ⟨habove, hmade⟩
  · exact .inl hsame
  · exact .inr ⟨habove.trans (List.take_prefix n path), hmade⟩

theorem meets_mkdir {path : Path} (hstraight : Straight path) (hne : path ≠ [])
    (hA : ∀ above, above <+: path → A above)
    (hS : ∀ t t', T t → Along path t t' → S t') (fault : Fault) :
    Meets (Runs A T) (mkdir path fault)
      (fun _ => Runs A fun t' => (∃ t, T t ∧ Along path t t') ∧ t'.get? path = some .dir)
      (Left A S) := by
  unfold mkdir
  apply meets_perform
  · intro _ d hd
    rw [located_of_straight hstraight]
    obtain ⟨halong, hrunning, htouched, hdir⟩ :=
      mkdirs_spec [] hstraight (d := d.touch path)
    have hall : ∀ other ∈ (mkdirs [] path (d.touch path)).2.touched, A other := by
      intro other hother
      rcases htouched other hother with hmem | habove
      · exact (hd.touch (hA path List.prefix_rfl)).2.2 other hmem
      · exact hA other habove
    cases hmade : (mkdirs [] path (d.touch path)).1 with
    | false =>
      simp only [hmade]
      exact ⟨hS _ _ hd.2.1 halong, hall⟩
    | true =>
      simp only [hmade, if_true]
      exact ⟨hrunning.trans hd.1, ⟨⟨d.tree, hd.2.1, halong⟩, hdir hmade hne⟩, hall⟩
  · intro n _ d hd
    obtain ⟨halong, -, htouched, -⟩ :=
      mkdirs_spec [] (straight_take hstraight n) (d := d)
    refine ⟨hS _ _ hd.2.1 (Along.take halong), fun other hother => ?_⟩
    rcases htouched other hother with hmem | habove
    · exact hd.2.2 other hmem
    · exact hA other (habove.trans (List.take_prefix n path))

theorem meets_perform_of_left {fault : Fault} {whole : Disk → Option α × Disk}
    {part : Nat → Disk → Disk} {Q : α → Disk → Prop}
    (h : Meets (Runs A S) (perform fault whole part) Q (Left A S)) :
    Meets (Left A S) (perform fault whole part) Q (Left A S) := by
  intro d hd
  by_cases hrunning : d.running = true
  · exact h d ⟨hrunning, hd⟩
  · unfold perform
    rw [if_neg hrunning]
    exact hd

theorem meets_unlink {path : Path} (hstraight : Straight path) (hA : A path)
    (hS : ∀ t t', S t → t.removeFile path = some t' → S t') (fault : Fault) :
    Meets (Left A S) (unlink path fault) (fun _ => Left A S) (Left A S) := by
  have hremove : ∀ d, Left A S d → Ends (fun _ => Left A S) (Left A S) (d.remove path) ∧
      Left A S (d.remove path).2 := by
    intro d hd
    unfold Disk.remove
    rw [located_of_straight hstraight]
    cases hremoved : d.tree.removeFile path with
    | none => exact ⟨hd.touch hA, hd.touch hA⟩
    | some tree =>
      exact ⟨⟨hS _ _ hd.1 hremoved, (hd.touch hA).2⟩, hS _ _ hd.1 hremoved, (hd.touch hA).2⟩
  refine meets_perform_of_left (meets_perform ?_ ?_)
  · exact fun _ d hd => (hremove d hd.2).1
  · intro n _ d hd
    split
    · rw [located_of_straight hstraight]
      exact Left.touch hd.2 hA
    · exact (hremove d hd.2).2

theorem meets_rename {path dest : Path} (hpath : Straight path) (hdest : Straight dest)
    (hApath : A path) (hAdest : A dest) (hT : ∀ t, T t → S t)
    (hmove : ∀ t t' content, T t → t.get? path = some (.file content) →
      t.removeFile path = some t' → T' (t'.put dest (.file content)))
    (hS : ∀ t, T' t → S t) (fault : Fault) :
    Meets (Runs A T) (rename path dest fault) (fun _ => Runs A T') (Left A S) := by
  have hmoved : ∀ d, Runs A T d →
      Ends (fun _ => Runs A T') (Left A S) (d.move path dest) ∧ Left A S (d.move path dest).2 := by
    intro d hd
    have htouched := (hd.touch hApath).touch hAdest
    have hstays := htouched.left hT
    unfold Disk.move
    rw [located_of_straight hpath, located_of_straight hdest]
    simp only
    split
    · exact ⟨hstays, hstays⟩
    · rename_i content _ hfile hnotDir
      split
      · rename_i tree hremoved
        have hend := hmove _ _ _ hd.2.1 hfile hremoved
        exact ⟨⟨hd.1, hend, htouched.2.2⟩, hS _ hend, htouched.2.2⟩
      · exact ⟨hstays, hstays⟩
    · exact ⟨hstays, hstays⟩
  refine meets_perform (fun _ d hd => (hmoved d hd).1) fun n _ d hd => ?_
  split
  · rw [located_of_straight hpath, located_of_straight hdest]
    exact ((hd.touch hApath).touch hAdest).left hT
  · exact (hmoved d hd).2

theorem meets_glob {path : Path} (hstraight : Straight path) (hA : ∀ below, A (path ++ below))
    {pattern : String} {part : List Char} (hpart : components pattern.toList = [part])
    (hup : part ≠ ['.', '.']) (hstars : part ≠ ['*', '*']) (hS : ∀ t, T t → S t) (fault : Fault) :
    Meets (Runs A T) (glob path pattern fault)
      (fun found => Runs A fun t => T t ∧
        ∀ image ∈ found, ∃ name, image = path ++ [name] ∧ (t.get? image).isSome ∧
          fnmatch name part = true) (Left A S) := by
  have hApath : A path := by simpa using hA []
  have hfound : ∀ t : FileTree Bytes, globFrom t path [part] =
      ((t.names path).filter fun name => fnmatch name part).map fun name => path ++ [name] := by
    intro t
    simp only [globFrom, hup, hstars, if_false]
    exact List.map_eq_flatMap.symm
  unfold glob
  rw [located_of_straight hstraight, hpart]
  refine meets_perform (fun _ d hd => ?_) fun _ _ d hd => (hd.touch hApath).left hS
  have htouched : ∀ other ∈ globFrom d.tree path [part] ++ path :: d.touched, A other := by
    intro other hother
    rcases List.mem_append.mp hother with hother | hother
    · rw [hfound] at hother
      obtain ⟨name, -, rfl⟩ := List.mem_map.mp hother
      exact hA [name]
    · rcases List.mem_cons.mp hother with rfl | hother
      · exact hApath
      · exact hd.2.2 other hother
  simp only
  split
  · exact ⟨hS _ hd.2.1, htouched⟩
  · split
    · exact ⟨hS _ hd.2.1, htouched⟩
    · refine ⟨hd.1, ⟨hd.2.1, fun image himage => ?_⟩, htouched⟩
      rw [hfound] at himage
      obtain ⟨name, hname, rfl⟩ := List.mem_map.mp himage
      obtain ⟨hnames, hmatch⟩ := List.mem_filter.mp hname
      exact ⟨name, rfl, FileTree.mem_names.mp hnames, hmatch⟩

/-! ### Patterns without sets -/

/-- A character that stands for itself in a pattern. -/
def Literal (c : Char) : Prop := c ≠ '*' ∧ c ≠ '?' ∧ c ≠ '['

instance (c : Char) : Decidable (Literal c) := inferInstanceAs (Decidable (_ ∧ _ ∧ _))

theorem forall_mem_of_all {p : Char → Prop} [DecidablePred p] {cs : List Char}
    (h : (cs.all fun c => decide (p c)) = true) : ∀ c ∈ cs, p c :=
  fun c hc => of_decide_eq_true (List.all_eq_true.mp h c hc)

theorem tokens_append {cs : List Char} (h : ∀ c ∈ cs, Literal c) (n : Nat) (rest : List Char) :
    tokens (cs.length + n) (cs ++ rest) = cs.map .lit ++ tokens n rest := by
  induction cs with
  | nil => simp
  | cons c cs ih =>
    obtain ⟨hstar, hany, hset⟩ := h c List.mem_cons_self
    have hlength : (c :: cs).length + n = cs.length + n + 1 := by
      rw [List.length_cons]
      omega
    rw [hlength, List.cons_append, tokens, if_neg hstar, if_neg hany, if_neg hset,
      ih fun d hd => h d (List.mem_cons_of_mem _ hd)]
    rfl

theorem matchesTokens_lits {cs name : List Char} {pattern : List Token}
    (h : matchesTokens (cs.map .lit ++ pattern) name = true) :
    ∃ rest, name = cs ++ rest ∧ matchesTokens pattern rest = true := by
  induction cs generalizing name with
  | nil => exact ⟨name, rfl, h⟩
  | cons c cs ih =>
    cases name with
    | nil => cases h
    | cons d name =>
      simp only [List.map_cons, List.cons_append, matchesTokens, Bool.and_eq_true,
        beq_iff_eq] at h
      obtain ⟨rest, hname, hrest⟩ := ih h.2
      exact ⟨rest, by rw [h.1, hname, List.cons_append], hrest⟩

theorem of_fnmatch_star {before after name : List Char} (hbefore : ∀ c ∈ before, Literal c)
    (hafter : ∀ c ∈ after, Literal c) (h : fnmatch name (before ++ '*' :: after) = true) :
    before <+: name ∧ after <:+ name := by
  have htokens : tokens (before ++ '*' :: after).length (before ++ '*' :: after) =
      before.map .lit ++ (.star :: after.map .lit) := by
    rw [List.length_append, tokens_append hbefore, List.length_cons, tokens, if_pos rfl]
    have hend := tokens_append hafter 0 []
    rw [List.append_nil, Nat.add_zero] at hend
    rw [hend]
    simp [tokens]
  unfold fnmatch at h
  rw [htokens] at h
  obtain ⟨rest, rfl, hrest⟩ := matchesTokens_lits h
  refine ⟨List.prefix_append _ _, ?_⟩
  simp only [matchesTokens, List.any_eq_true, List.mem_tails] at hrest
  obtain ⟨tail, hsuffix, hmatch⟩ := hrest
  rw [← List.append_nil (after.map Token.lit)] at hmatch
  obtain ⟨last, rfl, hlast⟩ := matchesTokens_lits hmatch
  have hnil : last = [] := by simpa [matchesTokens] using hlast
  rw [hnil, List.append_nil] at hsuffix
  exact hsuffix.trans (List.suffix_append _ _)

/-! ### What is flashed -/

/-- The images handed to esptool, by their offset, beside those of the chosen release. -/
structure Flashed where
  images : List (Int × Option Bytes)
  expected : Option (List (Int × Bytes))
deriving DecidableEq

/-- The images are all and byte for byte those of the release. -/
def Flashed.Complete (f : Flashed) : Prop :=
  ∃ expected, f.expected = some expected ∧
    f.images = expected.map fun image => (image.1, some image.2)

/-- The disk between attempts, and what was handed to esptool so far. -/
structure Station where
  tree : FileTree Bytes
  touched : List Path
  flashed : List Flashed

/-- The path is in the folder, or the folder is in it. -/
def Confined (root path : Path) : Prop := root <+: path ∨ path <+: root

/-- Every image that was flashed is complete, and nothing outside the folder was touched. -/
structure Station.Good (root : Path) (s : Station) : Prop where
  complete : ∀ f ∈ s.flashed, f.Complete
  confined : ∀ path ∈ s.touched, Confined root path

/-- A disk with nothing in the folder. -/
structure Station.Fresh (root : Path) (s : Station) : Prop where
  empty : ∀ path, root <+: path → path ≠ root → s.tree.get? path = none
  touched : s.touched = []
  flashed : s.flashed = []

theorem confined_append (root below : Path) : Confined root (root ++ below) :=
  .inl (List.prefix_append _ _)

theorem confined_of_prefix {root below path : Path} (h : path <+: root ++ below) :
    Confined root path :=
  (List.prefix_or_prefix_of_prefix (List.prefix_append root below) h)

/-- One attempt: `session` with a process that runs, and what it hands over. -/
def attemptFlash {α : Type} (session : Session Disk α) (images : α → List (Int × Path))
    (expected : Option (List (Int × Bytes))) (s : Station) : Station :=
  match session ⟨s.tree, s.touched, true⟩ with
  | (some fw, d) =>
    ⟨d.tree, d.touched,
      ⟨(images fw).map fun image => (image.1, fileAt d.tree image.2), expected⟩ :: s.flashed⟩
  | (none, d) => ⟨d.tree, d.touched, s.flashed⟩

theorem good_attemptFlash {α : Type} {root : Path} {S : FileTree Bytes → Prop} {s : Station}
    (hs : S s.tree) (hgood : s.Good root) {session : Session Disk α}
    {images : α → List (Int × Path)} {expected : Option (List (Int × Bytes))}
    (h : Meets (Runs (Confined root) S) session
      (fun fw d => Runs (Confined root) S d ∧ ∃ whole, expected = some whole ∧
        (images fw).map (fun image => (image.1, fileAt d.tree image.2)) =
          whole.map fun image => (image.1, some image.2))
      (Left (Confined root) S)) :
    S (attemptFlash session images expected s).tree ∧
      (attemptFlash session images expected s).Good root := by
  have hrun := h ⟨s.tree, s.touched, true⟩ ⟨rfl, hs, hgood.confined⟩
  unfold attemptFlash
  cases hresult : session ⟨s.tree, s.touched, true⟩ with
  | mk result d =>
    rw [hresult] at hrun
    cases result with
    | none => exact ⟨hrun.1, hgood.complete, hrun.2⟩
    | some fw =>
      obtain ⟨⟨-, htree, htouched⟩, hcomplete⟩ := hrun
      refine ⟨htree, fun f hf => ?_, htouched⟩
      rcases List.mem_cons.mp hf with rfl | hf
      · exact hcomplete
      · exact hgood.complete f hf

end Meshpoint.FirmwareFiles
