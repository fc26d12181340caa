import Meshpoint.JsonAgreement

/-!
# Shared JSON trees

Lists and dictionaries as mutable objects on a heap.  A reference stands for a
tree when following it yields the tree; what stands for a tree goes on standing
for it while the heap only grows, so a computation that changes no object of the
heap it started on leaves every caller's view as it was (`Grows`).

`deepcopy` rebuilds what a reference leads to out of new objects, each object
once.
-/

namespace ObjectHeap

open JsonText

/-! ### Objects -/

/-- A leaf, or the address of an object. -/
inductive Ref (F : Type) where
  | null
  | bool (b : Bool)
  | int (n : Int)
  | float (x : F)
  | str (s : String)
  | object (address : Nat)

inductive Object (F : Type) where
  | list (items : List (Ref F))
  | dict (entries : List (String × Ref F))

abbrev Heap (F : Type) := List (Object F)

variable {F α β : Type}

mutual

/-- Following the reference yields the tree. -/
inductive Represents (h : Heap F) : Ref F → Value F → Prop
  | null : Represents h .null .null
  | bool (b : Bool) : Represents h (.bool b) (.bool b)
  | int (n : Int) : Represents h (.int n) (.int n)
  | float (x : F) : Represents h (.float x) (.float x)
  | str (s : String) : Represents h (.str s) (.str s)
  | list {address : Nat} {items : List (Ref F)} {vs : Values F} :
      h[address]? = some (.list items) → RepresentsItems h items vs →
      Represents h (.object address) (.list vs)
  | dict {address : Nat} {entries : List (String × Ref F)} {es : Entries F} :
      h[address]? = some (.dict entries) → RepresentsEntries h entries es →
      Represents h (.object address) (.dict es)

inductive RepresentsItems (h : Heap F) : List (Ref F) → Values F → Prop
  | nil : RepresentsItems h [] .nil
  | cons {r : Ref F} {refs : List (Ref F)} {v : Value F} {vs : Values F} : Represents h r v →
      RepresentsItems h refs vs → RepresentsItems h (r :: refs) (.cons v vs)

inductive RepresentsEntries (h : Heap F) : List (String × Ref F) → Entries F → Prop
  | nil : RepresentsEntries h [] .nil
  | cons {k : String} {r : Ref F} {refs : List (String × Ref F)} {v : Value F} {es : Entries F} :
      Represents h r v → RepresentsEntries h refs es →
      RepresentsEntries h ((k, r) :: refs) (.cons k v es)

end

theorem getElem?_mono {h h' : Heap F} (hle : h <+: h') {address : Nat} {o : Object F}
    (ho : h[address]? = some o) : h'[address]? = some o := by
  obtain ⟨rest, rfl⟩ := hle
  obtain ⟨hlt, -⟩ := List.getElem?_eq_some_iff.mp ho
  rwa [List.getElem?_append_left hlt]

mutual

theorem Represents.mono {h h' : Heap F} (hle : h <+: h') :
    ∀ {r : Ref F} {v : Value F}, Represents h r v → Represents h' r v
  | _, _, .null => .null
  | _, _, .bool b => .bool b
  | _, _, .int n => .int n
  | _, _, .float x => .float x
  | _, _, .str s => .str s
  | _, _, .list ho hitems => .list (getElem?_mono hle ho) (hitems.mono hle)
  | _, _, .dict ho hentries => .dict (getElem?_mono hle ho) (hentries.mono hle)

theorem RepresentsItems.mono {h h' : Heap F} (hle : h <+: h') :
    ∀ {refs : List (Ref F)} {vs : Values F}, RepresentsItems h refs vs → RepresentsItems h' refs vs
  | _, _, .nil => .nil
  | _, _, .cons hr hrest => .cons (hr.mono hle) (hrest.mono hle)

theorem RepresentsEntries.mono {h h' : Heap F} (hle : h <+: h') :
    ∀ {refs : List (String × Ref F)} {es : Entries F}, RepresentsEntries h refs es →
      RepresentsEntries h' refs es
  | _, _, .nil => .nil
  | _, _, .cons hr hrest => .cons (hr.mono hle) (hrest.mono hle)

end

mutual

def nesting : Value F → Nat
  | .list items => nestingItems items + 1
  | .dict es => nestingEntries es + 1
  | _ => 0

def nestingItems : Values F → Nat
  | .nil => 0
  | .cons v vs => max (nesting v) (nestingItems vs)

def nestingEntries : Entries F → Nat
  | .nil => 0
  | .cons _ v es => max (nesting v) (nestingEntries es)

end

/-! ### Computations -/

/-- A computation on the heap: its result, `none` when it raises, and the heap it leaves. -/
def Run (F α : Type) := Heap F → Option α × Heap F

namespace Run

def pure (a : α) : Run F α := fun h => (some a, h)

def raise : Run F α := fun h => (none, h)

def bind (m : Run F α) (next : α → Run F β) : Run F β := fun h =>
  match m h with
  | (some a, h') => next a h'
  | (none, h') => (none, h')

end Run

instance : Monad (Run F) where
  pure := Run.pure
  bind := Run.bind

def read (address : Nat) : Run F (Object F) := fun h => (h[address]?, h)

def alloc (o : Object F) : Run F Nat := fun h => (some h.length, h ++ [o])

def write (address : Nat) (o : Object F) : Run F Unit := fun h => (some (), h.set address o)

/-- `[f(a) for a in as]`. -/
def each (f : α → Run F β) : List α → Run F (List β)
  | [] => pure []
  | a :: as => do
    let b ← f a
    let bs ← each f as
    return b :: bs

def Grows (m : Run F α) : Prop := ∀ h, h <+: (m h).2

theorem grows_pure (a : α) : Grows (pure a : Run F α) := fun h => List.prefix_refl h

theorem grows_raise : Grows (Run.raise : Run F α) := fun h => List.prefix_refl h

theorem grows_read (address : Nat) : Grows (read address : Run F (Object F)) :=
  fun h => List.prefix_refl h

theorem grows_alloc (o : Object F) : Grows (alloc o) := fun h => List.prefix_append h [o]

theorem bind_apply (m : Run F α) (next : α → Run F β) (h : Heap F) :
    (m >>= next) h = match m h with
      | (some a, h') => next a h'
      | (none, h') => (none, h') := rfl

theorem Grows.bind {m : Run F α} {next : α → Run F β} (hm : Grows m) (hnext : ∀ a, Grows (next a)) :
    Grows (m >>= next) := by
  intro h
  have hfirst := hm h
  rw [bind_apply]
  split
  · rename_i a h' heq
    rw [heq] at hfirst
    exact hfirst.trans (hnext a h')
  · rename_i h' heq
    rwa [heq] at hfirst

theorem Grows.each {f : α → Run F β} (hf : ∀ a, Grows (f a)) : ∀ as, Grows (each f as)
  | [] => grows_pure _
  | a :: as => (hf a).bind fun _ => (Grows.each hf as).bind fun _ => grows_pure _

theorem alloc_write (o o' : Object F) (next : Nat → Run F β) :
    (do let address ← alloc o
        write address o'
        next address) = (alloc o' >>= next) := by
  funext h
  simp [bind_apply, alloc, write]

/-! ### Copies -/

/-- The copies made so far, by the address of the original. -/
abbrev Memo := List (Nat × Nat)

/-- Copies one after the other, with the memo handed on. -/
def copyAll (copy : Memo → α → Run F (β × Memo)) : Memo → List α → Run F (List β × Memo)
  | memo, [] => pure ([], memo)
  | memo, a :: as => do
    let (b, memo) ← copy memo a
    let (bs, memo) ← copyAll copy memo as
    return (b :: bs, memo)

def copyEntry (copy : Memo → Ref F → Run F (Ref F × Memo)) (memo : Memo) (entry : String × Ref F) :
    Run F ((String × Ref F) × Memo) := do
  let (r, memo) ← copy memo entry.2
  return ((entry.1, r), memo)

/-- `copy.deepcopy`: an object that was copied before is not copied again.  Raises when the
    nesting exhausts the recursion limit. -/
def deepcopy : (limit : Nat) → Memo → Ref F → Run F (Ref F × Memo)
  | 0, _, _ => Run.raise
  | limit + 1, memo, .object address =>
    match memo.lookup address with
    | some copied => pure (.object copied, memo)
    | none => do
      match ← read address with
      | .list items =>
        let (items, memo) ← copyAll (deepcopy limit) memo items
        let copied ← alloc (.list items)
        return (.object copied, (address, copied) :: memo)
      | .dict entries =>
        let (entries, memo) ← copyAll (copyEntry (deepcopy limit)) memo entries
        let copied ← alloc (.dict entries)
        return (.object copied, (address, copied) :: memo)
  | _ + 1, memo, r => pure (r, memo)

theorem grows_copyAll {copy : Memo → α → Run F (β × Memo)}
    (hcopy : ∀ memo a, Grows (copy memo a)) : ∀ memo as, Grows (copyAll copy memo as)
  | _, [] => grows_pure _
  | memo, a :: as =>
    (hcopy memo a).bind fun p => (grows_copyAll hcopy p.2 as).bind fun _ => grows_pure _

theorem grows_deepcopy : ∀ (limit : Nat) (memo : Memo) (r : Ref F), Grows (deepcopy limit memo r)
  | 0, _, _ => grows_raise
  | limit + 1, memo, r => by
    have hcopy : ∀ memo (r : Ref F), Grows (deepcopy limit memo r) := grows_deepcopy limit
    unfold deepcopy
    cases r with
    | object address =>
      simp only
      split
      · exact grows_pure _
      · refine (grows_read address).bind fun o => ?_
        split
        · exact (grows_copyAll hcopy memo _).bind fun _ =>
            (grows_alloc _).bind fun _ => grows_pure _
        · have hentry : ∀ memo entry, Grows (copyEntry (deepcopy limit) memo entry) :=
            fun memo entry => (hcopy memo entry.2).bind fun _ => grows_pure _
          exact (grows_copyAll hentry memo _).bind fun _ =>
            (grows_alloc _).bind fun _ => grows_pure _
    | _ => exact grows_pure _

mutual

theorem Represents.unique {h : Heap F} : ∀ {r : Ref F} {v w : Value F}, Represents h r v →
    Represents h r w → v = w
  | _, _, _, .null, .null => rfl
  | _, _, _, .bool _, .bool _ => rfl
  | _, _, _, .int _, .int _ => rfl
  | _, _, _, .float _, .float _ => rfl
  | _, _, _, .str _, .str _ => rfl
  | _, _, _, .list ho hitems, .list ho' hitems' => by
    rw [ho, Option.some.injEq, Object.list.injEq] at ho'
    subst ho'
    rw [hitems.unique hitems']
  | _, _, _, .list ho _, .dict ho' _ => by
    rw [ho] at ho'
    cases ho'
  | _, _, _, .dict ho _, .list ho' _ => by
    rw [ho] at ho'
    cases ho'
  | _, _, _, .dict ho hentries, .dict ho' hentries' => by
    rw [ho, Option.some.injEq, Object.dict.injEq] at ho'
    subst ho'
    rw [hentries.unique hentries']

theorem RepresentsItems.unique {h : Heap F} : ∀ {refs : List (Ref F)} {vs ws : Values F},
    RepresentsItems h refs vs → RepresentsItems h refs ws → vs = ws
  | _, _, _, .nil, .nil => rfl
  | _, _, _, .cons hr hrest, .cons hr' hrest' => by rw [hr.unique hr', hrest.unique hrest']

theorem RepresentsEntries.unique {h : Heap F} : ∀ {refs : List (String × Ref F)}
    {es fs : Entries F}, RepresentsEntries h refs es → RepresentsEntries h refs fs → es = fs
  | _, _, _, .nil, .nil => rfl
  | _, _, _, .cons hr hrest, .cons hr' hrest' => by rw [hr.unique hr', hrest.unique hrest']

end

/-- The heap has grown from `start` and every copy stands for what its original stood for. -/
structure Copied (start : Heap F) (memo : Memo) (h : Heap F) : Prop where
  grown : start <+: h
  faithful : ∀ address copied, memo.lookup address = some copied → ∀ v,
    Represents start (.object address) v → Represents h (.object copied) v

theorem Copied.mono {start h h' : Heap F} {memo : Memo} (hc : Copied start memo h)
    (hgrow : h <+: h') : Copied start memo h' where
  grown := hc.grown.trans hgrow
  faithful address copied hlookup v hv := (hc.faithful address copied hlookup v hv).mono hgrow

/-- The computation makes a copy that stands for the given thing. -/
def Makes (start : Heap F) (m : Memo → Run F (α × Memo)) (stands : Heap F → α → Prop) : Prop :=
  ∀ memo h, Copied start memo h → ∃ a memo' h', m memo h = (some (a, memo'), h') ∧ h <+: h' ∧
    Copied start memo' h' ∧ stands h' a

section

variable {start : Heap F} {limit : Nat} {copy : Memo → Ref F → Run F (Ref F × Memo)}

theorem makes_items (hcopy : ∀ r v, nesting v < limit → Represents start r v →
      Makes start (fun memo => copy memo r) fun h r => Represents h r v) :
    ∀ {refs : List (Ref F)} {vs : Values F}, nestingItems vs < limit →
      RepresentsItems start refs vs →
        Makes start (fun memo => copyAll copy memo refs) fun h refs => RepresentsItems h refs vs
  | _, _, _, .nil => fun memo h hc => ⟨[], memo, h, rfl, List.prefix_refl h, hc, .nil⟩
  | _, _, hlimit, .cons hr hrest => fun memo h hc => by
    obtain ⟨hhead, htail⟩ := Nat.max_lt.mp hlimit
    obtain ⟨r', memo', h', hm, hgrow, hc', hr'⟩ := hcopy _ _ hhead hr memo h hc
    obtain ⟨refs', memo'', h'', hm', hgrow', hc'', hrest'⟩ :=
      makes_items hcopy htail hrest memo' h' hc'
    refine ⟨r' :: refs', memo'', h'', ?_, hgrow.trans hgrow', hc'', .cons (hr'.mono hgrow') hrest'⟩
    simp only [copyAll, bind_apply, hm, hm']
    rfl

theorem makes_entries (hcopy : ∀ r v, nesting v < limit → Represents start r v →
      Makes start (fun memo => copy memo r) fun h r => Represents h r v) :
    ∀ {refs : List (String × Ref F)} {es : Entries F}, nestingEntries es < limit →
      RepresentsEntries start refs es →
        Makes start (fun memo => copyAll (copyEntry copy) memo refs)
          fun h refs => RepresentsEntries h refs es
  | _, _, _, .nil => fun memo h hc => ⟨[], memo, h, rfl, List.prefix_refl h, hc, .nil⟩
  | (k, r) :: _, .cons _ _ _, hlimit, .cons hr hrest => fun memo h hc => by
    obtain ⟨hhead, htail⟩ := Nat.max_lt.mp hlimit
    obtain ⟨r', memo', h', hm, hgrow, hc', hr'⟩ := hcopy _ _ hhead hr memo h hc
    obtain ⟨refs', memo'', h'', hm', hgrow', hc'', hrest'⟩ :=
      makes_entries hcopy htail hrest memo' h' hc'
    refine ⟨(k, r') :: refs', memo'', h'', ?_, hgrow.trans hgrow', hc'',
      .cons (hr'.mono hgrow') hrest'⟩
    have hentry : copyEntry copy memo (k, r) h = (some ((k, r'), memo'), h') := by
      simp only [copyEntry, bind_apply, hm]
      rfl
    simp only [copyAll, bind_apply, hentry, hm']
    rfl

theorem Copied.cons {memo : Memo} {h : Heap F} (hc : Copied start memo h) {address copied : Nat}
    {v : Value F} (hv : Represents start (.object address) v)
    (hcopied : Represents h (.object copied) v) : Copied start ((address, copied) :: memo) h where
  grown := hc.grown
  faithful a b hlookup w hw := by
    rw [List.lookup_cons] at hlookup
    split at hlookup
    · rename_i heq
      cases hlookup
      obtain rfl := eq_of_beq heq
      rwa [hw.unique hv]
    · exact hc.faithful a b hlookup w hw

theorem makes_deepcopy (limit : Nat) {r : Ref F} {v : Value F} (hlimit : nesting v < limit)
    (hr : Represents start r v) :
    Makes start (fun memo => deepcopy limit memo r) fun h r => Represents h r v := by
  induction limit generalizing r v with
  | zero => exact absurd hlimit (Nat.not_lt_zero _)
  | succ limit ih =>
    intro memo h hc
    have hcopy : ∀ r v, nesting v < limit → Represents start r v →
        Makes start (fun memo => deepcopy limit memo r) fun h r => Represents h r v :=
      fun r v => ih
    unfold deepcopy
    cases hr with
    | @list address items vs ho hitems =>
      cases hlookup : memo.lookup address with
      | some copied =>
        simp only [hlookup]
        exact ⟨_, memo, h, rfl, List.prefix_refl h, hc,
          hc.faithful address copied hlookup _ (.list ho hitems)⟩
      | none =>
        obtain ⟨items', memo', h', hm, hgrow, hc', hitems'⟩ :=
          makes_items hcopy (Nat.lt_of_succ_lt_succ hlimit) hitems memo h hc
        have halloc := List.prefix_append h' [Object.list items']
        have hcopied : Represents (h' ++ [.list items']) (.object h'.length) (.list vs) :=
          .list (by simp) (hitems'.mono halloc)
        refine ⟨.object h'.length, (address, h'.length) :: memo', h' ++ [.list items'], ?_,
          hgrow.trans halloc, (hc'.mono halloc).cons (.list ho hitems) hcopied, hcopied⟩
        simp only [hlookup, bind_apply, read, getElem?_mono hc.grown ho, hm]
        rfl
    | @dict address entries es ho hentries =>
      cases hlookup : memo.lookup address with
      | some copied =>
        simp only [hlookup]
        exact ⟨_, memo, h, rfl, List.prefix_refl h, hc,
          hc.faithful address copied hlookup _ (.dict ho hentries)⟩
      | none =>
        obtain ⟨entries', memo', h', hm, hgrow, hc', hentries'⟩ :=
          makes_entries hcopy (Nat.lt_of_succ_lt_succ hlimit) hentries memo h hc
        have halloc := List.prefix_append h' [Object.dict entries']
        have hcopied : Represents (h' ++ [.dict entries']) (.object h'.length) (.dict es) :=
          .dict (by simp) (hentries'.mono halloc)
        refine ⟨.object h'.length, (address, h'.length) :: memo', h' ++ [.dict entries'], ?_,
          hgrow.trans halloc, (hc'.mono halloc).cons (.dict ho hentries) hcopied, hcopied⟩
        simp only [hlookup, bind_apply, read, getElem?_mono hc.grown ho, hm]
        rfl
    | null => exact ⟨.null, memo, h, rfl, List.prefix_refl h, hc, .null⟩
    | bool b => exact ⟨.bool b, memo, h, rfl, List.prefix_refl h, hc, .bool b⟩
    | int n => exact ⟨.int n, memo, h, rfl, List.prefix_refl h, hc, .int n⟩
    | float x => exact ⟨.float x, memo, h, rfl, List.prefix_refl h, hc, .float x⟩
    | str s => exact ⟨.str s, memo, h, rfl, List.prefix_refl h, hc, .str s⟩

end

end ObjectHeap
