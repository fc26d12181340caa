import Mathlib.Data.List.Infix
import Mathlib.Tactic.IntervalCases
import Meshpoint.JsonText
import Meshpoint.PyText

/-!
# The audit log

Model of `src/api/audit/audit_log.py`. A parameter of a log entry is a tree of dictionaries, lists
and tuples over values of any other type, which `json.dumps` may or may not take. `redact` hides
the values under sensitive keys and nothing else (`redact_eq_iff`); a block in `timed_action`
leaves its line in the log exactly when `Handled` and `Encodable` hold
(`timedAction_complete_iff`).
-/

namespace Meshpoint.AuditLog

open JsonText ByteCodec

/-! ### Parameters -/

inductive PyKey (O : Type) where
  | str (s : String)
  | int (n : Int)
  | object (o : O)

mutual

/-- A value of a parameter; `object` is one of any other type. -/
inductive PyValue (O : Type) where
  | null
  | bool (b : Bool)
  | int (n : Int)
  | str (s : String)
  | object (o : O)
  | list (items : PyValues O)
  | tuple (items : PyValues O)
  | dict (entries : PyEntries O)

inductive PyValues (O : Type) where
  | nil
  | cons (head : PyValue O) (tail : PyValues O)

inductive PyEntries (O : Type) where
  | nil
  | cons (key : PyKey O) (value : PyValue O) (tail : PyEntries O)

end

/-- What `json.dumps` makes of the copy that `asdict` takes of another object, as a value and as
    a key; `none` when one of them raises. Without `indent` no text has a line break. -/
structure Encoder (O : Type) where
  valueText : O → Option (List Char)
  keyText : O → Option (List Char)
  plain : ∀ o text, valueText o = some text ∨ keyText o = some text → '\n' ∉ text

/-- The longest integers that the interpreter writes in decimal. -/
def MAX_STR_DIGITS : Nat := 4300

def intFits (n : Int) : Bool := (Nat.toDigits 10 n.natAbs).length ≤ MAX_STR_DIGITS

variable {O : Type}

section

variable (enc : Encoder O)

def dumpsKey : PyKey O → Option (List Char)
  | .str s => some (strText s)
  | .int n => if intFits n then some ('"' :: (intText n ++ ['"'])) else none
  | .object o => enc.keyText o

mutual

/-- `json.dumps(value, sort_keys=False, separators=(",", ":"))`. -/
def dumps : PyValue O → Option (List Char)
  | .null => some "null".toList
  | .bool true => some "true".toList
  | .bool false => some "false".toList
  | .int n => if intFits n then some (intText n) else none
  | .str s => some (strText s)
  | .object o => enc.valueText o
  | .list items => (dumpsItems items).map fun texts =>
      '[' :: (List.intercalate [','] texts ++ [']'])
  | .tuple items => (dumpsItems items).map fun texts =>
      '[' :: (List.intercalate [','] texts ++ [']'])
  | .dict entries => (dumpsEntries entries).map fun texts =>
      '\x7b' :: (List.intercalate [','] texts ++ ['\x7d'])

def dumpsItems : PyValues O → Option (List (List Char))
  | .nil => some []
  | .cons v rest => do
    let text ← dumps v
    let texts ← dumpsItems rest
    pure (text :: texts)

def dumpsEntries : PyEntries O → Option (List (List Char))
  | .nil => some []
  | .cons k v rest => do
    let key ← dumpsKey enc k
    let text ← dumps v
    let texts ← dumpsEntries rest
    pure ((key ++ ':' :: text) :: texts)

end

end

/-! ### Redaction -/

def SENSITIVE_KEYS : List String :=
  ["password", "current_password", "new_password", "confirm_password", "viewer_password",
    "admin_password", "secret", "jwt_secret", "session_secret", "key", "psk", "channel_key",
    "raw_key", "token", "auth", "authorization", "cookie"]

def REDACTED : String := "<redacted>"

section

variable (lower : String → String)

/-- `_is_sensitive_key`. -/
def isSensitiveKey : PyKey O → Bool
  | .str key =>
    let lowered := lower key
    SENSITIVE_KEYS.contains lowered ||
      ["password", "secret", "token"].any fun token => decide (token.toList <:+: lowered.toList)
  | _ => false

mutual

/-- `_redact`. -/
def redact : PyValue O → PyValue O
  | .dict entries => .dict (redactEntries entries)
  | .list items => .list (redactItems items)
  | .tuple items => .tuple (redactItems items)
  | .null => .null
  | .bool b => .bool b
  | .int n => .int n
  | .str s => .str s
  | .object o => .object o

def redactItems : PyValues O → PyValues O
  | .nil => .nil
  | .cons v rest => .cons (redact v) (redactItems rest)

def redactEntries : PyEntries O → PyEntries O
  | .nil => .nil
  | .cons k v rest =>
    .cons k (if isSensitiveKey lower k then .str REDACTED else redact v) (redactEntries rest)

end

end

/-! ### The writer -/

structure AuditEntry (O : Type) where
  ts : String
  user : String
  action : String
  params : PyValue O
  result : String
  durationMs : Int
  error : Option String

/-- The `payload` of `to_json`. -/
def AuditEntry.payload (entry : AuditEntry O) : PyEntries O :=
  .cons (.str "ts") (.str entry.ts) <|
  .cons (.str "user") (.str entry.user) <|
  .cons (.str "action") (.str entry.action) <|
  .cons (.str "params") entry.params <|
  .cons (.str "result") (.str entry.result) <|
  .cons (.str "duration_ms") (.int entry.durationMs) <|
  match entry.error with
  | none => .nil
  | some error => .cons (.str "error") (.str error) .nil

/-- The lines of the log file, and whether the file system takes another one. -/
structure LogFile where
  lines : List (List Char)
  writable : Bool

/-- What the module takes from its surroundings: `json`, `str.lower` and the time of day. -/
structure Surroundings (O : Type) where
  enc : Encoder O
  lower : String → String
  nowIso : String

variable (env : Surroundings O)

/-- `_write_entry`; `none` when `to_json` raises. An `OSError` is printed. -/
def writeEntry (entry : AuditEntry O) (file : LogFile) : Option LogFile := do
  let line ← dumps env.enc (.dict entry.payload)
  pure (if file.writable then { file with lines := file.lines ++ [line] } else file)

/-- `AuditLogWriter.write`; `none` when it raises. -/
def write (user action : String) (params : PyEntries O) (result : String) (durationMs : Int)
    (error : Option String) (file : LogFile) : Option LogFile :=
  writeEntry env
    { ts := env.nowIso
      user := if user = "" then "anonymous" else user
      action := action
      params := redact env.lower (.dict params)
      result := result
      durationMs := durationMs
      error := error } file

/-! ### Timed actions -/

/-- An exception: whether it is an `Exception` and not only a `BaseException`, its `str`, which
    may raise, and the name of its class. -/
structure Raised where
  isException : Bool
  text : Option String
  className : String
deriving DecidableEq

/-- `_TimedActionContext`, the handle that a block gets. -/
structure Context (O : Type) where
  params : PyEntries O
  error : Option String
  result : Option String

/-- `ctx.result if ctx.result_is_set() else default`. -/
def Context.resultOr (ctx : Context O) (default : String) : String :=
  match ctx.result with
  | none => default
  | some result => if result = "" then "success" else result

/-- How a block in `timed_action` went: the exit, the handle and the log as it left them, and the
    time it took. -/
structure BlockRun (O α : Type) where
  exit : Except Raised α
  ctx : Context O
  file : LogFile
  elapsedMs : Int
  elapsed_fits : intFits elapsedMs

/-- The exception of a `write` that raises. -/
def encodeError : Raised where
  isException := true
  text := some "Object is not JSON serializable"
  className := "TypeError"

variable {α : Type}

/-- The exit of the `with` statement and the log after it, where `write` has the outcome given. -/
def afterWrite (run : BlockRun O α) : Option LogFile → Except Raised α × LogFile
  | some file => (run.exit, file)
  | none => (.error encodeError, run.file)

/-- `timed_action` around a block. -/
def timedAction (user action : String) (run : BlockRun O α) : Except Raised α × LogFile :=
  match run.exit with
  | .ok _ =>
    afterWrite run (write env user action run.ctx.params (run.ctx.resultOr "success")
      run.elapsedMs run.ctx.error run.file)
  | .error exc =>
    if exc.isException then
      match exc.text with
      -- `str(exc)` raises in the handler
      | none => (.error encodeError, run.file)
      | some text =>
        afterWrite run (write env user action run.ctx.params (run.ctx.resultOr "error")
          run.elapsedMs (some (if text = "" then exc.className else text)) run.file)
    -- neither `except Exception` nor `else` is entered
    else (run.exit, run.file)

/-! ### One line -/

section

variable (enc : Encoder O)

theorem escChar_plain (c : Char) : '\n' ∉ escChar c := by
  have hhex : ∀ w n, '\n' ∉ hexFixed w n := by
    intro w n hmem
    obtain ⟨d, hd, heq⟩ := PyText.mem_hexFixed hmem
    revert heq
    interval_cases d <;> decide
  unfold escChar
  split_ifs <;> simp_all [eq_comm]

theorem strText_plain (s : String) : '\n' ∉ strText s := by
  simp only [strText, List.mem_cons, List.mem_append, List.mem_flatMap]
  rintro (h | ⟨c, -, hc⟩ | h | h)
  · cases h
  · exact escChar_plain c hc
  · cases h
  · cases h

theorem intText_no_newline (n : Int) : '\n' ∉ intText n := by
  intro hmem
  cases n with
  | ofNat n => exact absurd (isDigit_of_mem_toDigits hmem) (by decide)
  | negSucc n =>
    rcases List.mem_cons.mp hmem with h | h
    · cases h
    · exact absurd (isDigit_of_mem_toDigits h) (by decide)

theorem intercalate_plain {texts : List (List Char)} (h : ∀ text ∈ texts, '\n' ∉ text) :
    '\n' ∉ List.intercalate [','] texts := by
  induction texts with
  | nil => simp
  | cons text texts ih =>
    rw [List.forall_mem_cons] at h
    cases texts with
    | nil =>
      rw [List.intercalate_singleton]
      exact h.1
    | cons next rest =>
      rw [List.intercalate_cons_cons]
      simp only [List.mem_append, List.mem_singleton, not_or]
      exact ⟨⟨h.1, by decide⟩, ih h.2⟩

theorem bracketed_plain {texts : List (List Char)} (h : ∀ text ∈ texts, '\n' ∉ text)
    {a b : Char} (ha : a ≠ '\n') (hb : b ≠ '\n') : '\n' ∉ a :: (List.intercalate [','] texts ++ [b]) := by
  simp only [List.mem_cons, List.mem_append, List.not_mem_nil, or_false, not_or]
  exact ⟨ha.symm, intercalate_plain h, hb.symm⟩

theorem dumpsKey_plain {k : PyKey O} {text : List Char} (h : dumpsKey enc k = some text) :
    '\n' ∉ text := by
  cases k with
  | str s =>
    cases h
    exact strText_plain s
  | int n =>
    simp only [dumpsKey, Option.ite_none_right_eq_some, Option.some.injEq] at h
    rw [← h.2]
    simp [intText_no_newline]
  | object o => exact enc.plain o text (.inr h)

mutual

theorem dumps_plain : ∀ (v : PyValue O) {text : List Char}, dumps enc v = some text →
    '\n' ∉ text
  | .null, text, h => by
    cases h
    decide
  | .bool true, text, h => by
    cases h
    decide
  | .bool false, text, h => by
    cases h
    decide
  | .int n, text, h => by
    simp only [dumps, Option.ite_none_right_eq_some, Option.some.injEq] at h
    rw [← h.2]
    exact intText_no_newline n
  | .str s, text, h => by
    cases h
    exact strText_plain s
  | .object o, text, h => enc.plain o text (.inl h)
  | .list items, text, h => by
    obtain ⟨texts, htexts, rfl⟩ := Option.map_eq_some_iff.mp h
    exact bracketed_plain (dumpsItems_plain items htexts) (by decide) (by decide)
  | .tuple items, text, h => by
    obtain ⟨texts, htexts, rfl⟩ := Option.map_eq_some_iff.mp h
    exact bracketed_plain (dumpsItems_plain items htexts) (by decide) (by decide)
  | .dict entries, text, h => by
    obtain ⟨texts, htexts, rfl⟩ := Option.map_eq_some_iff.mp h
    exact bracketed_plain (dumpsEntries_plain entries htexts) (by decide) (by decide)

theorem dumpsItems_plain : ∀ (items : PyValues O) {texts : List (List Char)},
    dumpsItems enc items = some texts → ∀ text ∈ texts, '\n' ∉ text
  | .nil, texts, h => by
    cases h
    exact fun text hmem => absurd hmem List.not_mem_nil
  | .cons v rest, texts, h => by
    obtain ⟨first, hfirst, h⟩ := Option.bind_eq_some_iff.mp h
    obtain ⟨later, hlater, h⟩ := Option.bind_eq_some_iff.mp h
    cases h
    exact List.forall_mem_cons.mpr ⟨dumps_plain v hfirst, dumpsItems_plain rest hlater⟩

theorem dumpsEntries_plain : ∀ (entries : PyEntries O) {texts : List (List Char)},
    dumpsEntries enc entries = some texts → ∀ text ∈ texts, '\n' ∉ text
  | .nil, texts, h => by
    cases h
    exact fun text hmem => absurd hmem List.not_mem_nil
  | .cons k v rest, texts, h => by
    obtain ⟨key, hkey, h⟩ := Option.bind_eq_some_iff.mp h
    obtain ⟨first, hfirst, h⟩ := Option.bind_eq_some_iff.mp h
    obtain ⟨later, hlater, h⟩ := Option.bind_eq_some_iff.mp h
    cases h
    refine List.forall_mem_cons.mpr ⟨?_, dumpsEntries_plain rest hlater⟩
    simp only [List.mem_append, List.mem_cons, not_or]
    exact ⟨dumpsKey_plain enc hkey, by decide, dumps_plain v hfirst⟩

end

end

/-! ### What can be written -/

section

variable (enc : Encoder O) (lower : String → String)

def encodableKey : PyKey O → Bool
  | .str _ => true
  | .int n => intFits n
  | .object o => (enc.keyText o).isSome

mutual

/-- Every key, and every value under a key that is not sensitive, has a JSON text. -/
def Encodable : PyValue O → Bool
  | .int n => intFits n
  | .object o => (enc.valueText o).isSome
  | .list items => EncodableItems items
  | .tuple items => EncodableItems items
  | .dict entries => EncodableEntries entries
  | _ => true

def EncodableItems : PyValues O → Bool
  | .nil => true
  | .cons v rest => Encodable v && EncodableItems rest

def EncodableEntries : PyEntries O → Bool
  | .nil => true
  | .cons k v rest =>
    encodableKey enc k && (isSensitiveKey lower k || Encodable v) && EncodableEntries rest

end

theorem isSome_dumpsKey (k : PyKey O) : (dumpsKey enc k).isSome = encodableKey enc k := by
  cases k with
  | str s => rfl
  | int n => cases h : intFits n <;> simp [dumpsKey, encodableKey, h]
  | object o => rfl

theorem isSome_bind_pure {β γ δ : Type} (x : Option β) (y : Option γ) (f : β → γ → δ) :
    (x >>= fun b => y >>= fun c => pure (f b c)).isSome = (x.isSome && y.isSome) := by
  cases x with
  | none => rfl
  | some b => cases y <;> rfl

mutual

theorem isSome_dumps_redact : ∀ v : PyValue O,
    (dumps enc (redact lower v)).isSome = Encodable enc lower v
  | .null => rfl
  | .bool true => rfl
  | .bool false => rfl
  | .int n => by cases h : intFits n <;> simp [dumps, redact, Encodable, h]
  | .str s => rfl
  | .object o => rfl
  | .list items => by
    rw [redact, dumps, Option.isSome_map, Encodable, isSome_dumpsItems_redact items]
  | .tuple items => by
    rw [redact, dumps, Option.isSome_map, Encodable, isSome_dumpsItems_redact items]
  | .dict entries => by
    rw [redact, dumps, Option.isSome_map, Encodable, isSome_dumpsEntries_redact entries]

theorem isSome_dumpsItems_redact : ∀ items : PyValues O,
    (dumpsItems enc (redactItems lower items)).isSome = EncodableItems enc lower items
  | .nil => rfl
  | .cons v rest => by
    rw [redactItems, dumpsItems, EncodableItems, isSome_bind_pure, isSome_dumps_redact v,
      isSome_dumpsItems_redact rest]

theorem isSome_dumpsEntries_redact : ∀ entries : PyEntries O,
    (dumpsEntries enc (redactEntries lower entries)).isSome = EncodableEntries enc lower entries
  | .nil => rfl
  | .cons k v rest => by
    have hvalue : (dumps enc
        (if isSensitiveKey lower k then .str REDACTED else redact lower v)).isSome =
        (isSensitiveKey lower k || Encodable enc lower v) := by
      cases hk : isSensitiveKey lower k
      · exact isSome_dumps_redact v
      · rfl
    rw [redactEntries, dumpsEntries, EncodableEntries, ← isSome_dumpsKey, ← hvalue,
      ← isSome_dumpsEntries_redact rest]
    cases dumpsKey enc k with
    | none => rfl
    | some key => exact isSome_bind_pure _ _ _

end

end

/-! ### What is hidden -/

section

variable (lower : String → String)

mutual

/-- The same value, but for what stands under sensitive keys at any depth. -/
inductive AgreeOutside : PyValue O → PyValue O → Prop
  | refl (v : PyValue O) : AgreeOutside v v
  | list {xs ys : PyValues O} : AgreeItems xs ys → AgreeOutside (.list xs) (.list ys)
  | tuple {xs ys : PyValues O} : AgreeItems xs ys → AgreeOutside (.tuple xs) (.tuple ys)
  | dict {es fs : PyEntries O} : AgreeEntries es fs → AgreeOutside (.dict es) (.dict fs)

inductive AgreeItems : PyValues O → PyValues O → Prop
  | nil : AgreeItems .nil .nil
  | cons {v w : PyValue O} {xs ys : PyValues O} : AgreeOutside v w → AgreeItems xs ys →
      AgreeItems (.cons v xs) (.cons w ys)

inductive AgreeEntries : PyEntries O → PyEntries O → Prop
  | nil : AgreeEntries .nil .nil
  | sensitive {k : PyKey O} {v w : PyValue O} {es fs : PyEntries O} :
      isSensitiveKey lower k = true → AgreeEntries es fs →
      AgreeEntries (.cons k v es) (.cons k w fs)
  | shown {k : PyKey O} {v w : PyValue O} {es fs : PyEntries O} : AgreeOutside v w →
      AgreeEntries es fs → AgreeEntries (.cons k v es) (.cons k w fs)

end

variable {lower}

mutual

theorem redact_congr : ∀ {v w : PyValue O}, AgreeOutside lower v w →
    redact lower v = redact lower w
  | _, _, .refl _ => rfl
  | _, _, .list h => by rw [redact, redact, redactItems_congr h]
  | _, _, .tuple h => by rw [redact, redact, redactItems_congr h]
  | _, _, .dict h => by rw [redact, redact, redactEntries_congr h]

theorem redactItems_congr : ∀ {xs ys : PyValues O}, AgreeItems lower xs ys →
    redactItems lower xs = redactItems lower ys
  | _, _, .nil => rfl
  | _, _, .cons hv hrest => by
    rw [redactItems, redactItems, redact_congr hv, redactItems_congr hrest]

theorem redactEntries_congr : ∀ {es fs : PyEntries O}, AgreeEntries lower es fs →
    redactEntries lower es = redactEntries lower fs
  | _, _, .nil => rfl
  | _, _, .sensitive hk hrest => by
    rw [redactEntries, redactEntries, if_pos hk, if_pos hk, redactEntries_congr hrest]
  | _, _, .shown hv hrest => by
    rw [redactEntries, redactEntries, redact_congr hv, redactEntries_congr hrest]

end

mutual

theorem agreeOutside_of_redact : ∀ {v w : PyValue O}, redact lower v = redact lower w →
    AgreeOutside lower v w
  | .list xs, w, h => by
    cases w <;> simp only [redact, reduceCtorEq, PyValue.list.injEq] at h
    exact .list (agreeItems_of_redact h)
  | .tuple xs, w, h => by
    cases w <;> simp only [redact, reduceCtorEq, PyValue.tuple.injEq] at h
    exact .tuple (agreeItems_of_redact h)
  | .dict es, w, h => by
    cases w <;> simp only [redact, reduceCtorEq, PyValue.dict.injEq] at h
    exact .dict (agreeEntries_of_redact h)
  | .null, w, h => by
    cases w <;> simp only [redact, reduceCtorEq] at h
    exact .refl _
  | .bool b, w, h => by
    cases w <;> simp only [redact, reduceCtorEq, PyValue.bool.injEq] at h
    exact h ▸ .refl _
  | .int n, w, h => by
    cases w <;> simp only [redact, reduceCtorEq, PyValue.int.injEq] at h
    exact h ▸ .refl _
  | .str s, w, h => by
    cases w <;> simp only [redact, reduceCtorEq, PyValue.str.injEq] at h
    exact h ▸ .refl _
  | .object o, w, h => by
    cases w <;> simp only [redact, reduceCtorEq, PyValue.object.injEq] at h
    exact h ▸ .refl _

theorem agreeItems_of_redact : ∀ {xs ys : PyValues O},
    redactItems lower xs = redactItems lower ys → AgreeItems lower xs ys
  | .nil, ys, h => by
    cases ys <;> simp only [redactItems, reduceCtorEq] at h
    exact .nil
  | .cons v xs, ys, h => by
    cases ys <;> simp only [redactItems, reduceCtorEq, PyValues.cons.injEq] at h
    exact .cons (agreeOutside_of_redact h.1) (agreeItems_of_redact h.2)

theorem agreeEntries_of_redact : ∀ {es fs : PyEntries O},
    redactEntries lower es = redactEntries lower fs → AgreeEntries lower es fs
  | .nil, fs, h => by
    cases fs <;> simp only [redactEntries, reduceCtorEq] at h
    exact .nil
  | .cons k v es, fs, h => by
    cases fs <;> simp only [redactEntries, reduceCtorEq, PyEntries.cons.injEq] at h
    obtain ⟨rfl, hvalue, hrest⟩ := h
    by_cases hk : isSensitiveKey lower k = true
    · exact .sensitive hk (agreeEntries_of_redact hrest)
    · rw [if_neg hk, if_neg hk] at hvalue
      exact .shown (agreeOutside_of_redact hvalue) (agreeEntries_of_redact hrest)

end

theorem redact_eq_iff {v w : PyValue O} :
    redact lower v = redact lower w ↔ AgreeOutside lower v w :=
  ⟨agreeOutside_of_redact, redact_congr⟩

end

/-! ### The line of a block -/

/-- The values of a call of `write` have JSON texts. -/
def Writable (params : PyEntries O) (durationMs : Int) : Prop :=
  Encodable env.enc env.lower (.dict params) = true ∧ intFits durationMs = true

instance (params : PyEntries O) (durationMs : Int) : Decidable (Writable env params durationMs) :=
  inferInstanceAs (Decidable (_ ∧ _))

theorem isSome_dumps_payload (entry : AuditEntry O) :
    (dumps env.enc (.dict entry.payload)).isSome =
      ((dumps env.enc entry.params).isSome && intFits entry.durationMs) := by
  rcases entry with ⟨ts, user, action, params, result, durationMs, error⟩
  cases hparams : dumps env.enc params <;> cases hfits : intFits durationMs <;> cases error <;>
    simp [AuditEntry.payload, dumps, dumpsEntries, dumpsKey, hparams, hfits]

/-- A call of `write` raises or adds one line to the file, if the file system permits. -/
theorem write_spec (user action result : String) (params : PyEntries O) (durationMs : Int)
    (error : Option String) (file : LogFile) :
    (Writable env params durationMs ∧ ∃ line, '\n' ∉ line ∧
        write env user action params result durationMs error file =
          some (if file.writable then { file with lines := file.lines ++ [line] } else file)) ∨
      ¬ Writable env params durationMs ∧
        write env user action params result durationMs error file = none := by
  let entry : AuditEntry O :=
    { ts := env.nowIso
      user := if user = "" then "anonymous" else user
      action := action
      params := redact env.lower (.dict params)
      result := result
      durationMs := durationMs
      error := error }
  have hwrite : write env user action params result durationMs error file =
      writeEntry env entry file := rfl
  have hwritable : (dumps env.enc (.dict entry.payload)).isSome = true ↔
      Writable env params durationMs := by
    rw [isSome_dumps_payload, isSome_dumps_redact, Bool.and_eq_true, Writable]
  rw [hwrite, writeEntry]
  cases hline : dumps env.enc (.dict entry.payload) with
  | none =>
    rw [hline] at hwritable
    exact .inr ⟨fun h => absurd (hwritable.mpr h) (by simp), rfl⟩
  | some line =>
    rw [hline] at hwritable
    exact .inl ⟨hwritable.mp rfl, line, dumps_plain env.enc _ hline, rfl⟩

theorem isSome_write_iff (user action result : String) (params : PyEntries O) (durationMs : Int)
    (error : Option String) (file : LogFile) :
    (write env user action params result durationMs error file).isSome ↔
      Writable env params durationMs := by
  rcases write_spec env user action result params durationMs error file with
    ⟨hwritable, line, -, hwrite⟩ | ⟨hnot, hwrite⟩
  · simp [hwrite, hwritable]
  · simp [hwrite, hnot]

/-- The exits that `timed_action` logs: the normal one, and an `Exception` whose `str` does not
    raise. -/
def Handled : Except Raised α → Prop
  | .ok _ => True
  | .error exc => exc.isException = true ∧ exc.text.isSome = true

/-- One line is added to the log that the block left, and the block's outcome is that of the
    `with` statement. -/
def LoggedOnce (run : BlockRun O α) (after : Except Raised α × LogFile) : Prop :=
  (∃ line, '\n' ∉ line ∧ after.2.lines = run.file.lines ++ [line]) ∧ after.1 = run.exit

theorem not_loggedOnce {run : BlockRun O α} {exit : Except Raised α} :
    ¬ LoggedOnce run (exit, run.file) := by
  rintro ⟨⟨line, -, h⟩, -⟩
  simp at h

theorem loggedOnce_afterWrite {run : BlockRun O α} (hpermits : run.file.writable = true)
    (user action result : String) (error : Option String) :
    LoggedOnce run (afterWrite run
        (write env user action run.ctx.params result run.elapsedMs error run.file)) ↔
      Encodable env.enc env.lower (.dict run.ctx.params) = true := by
  rcases write_spec env user action result run.ctx.params run.elapsedMs error run.file with
    ⟨hwritable, line, hplain, hwrite⟩ | ⟨hnot, hwrite⟩
  · rw [hwrite, if_pos hpermits]
    exact iff_of_true ⟨⟨line, hplain, rfl⟩, rfl⟩ hwritable.1
  · rw [hwrite]
    exact iff_of_false not_loggedOnce fun h => hnot ⟨h, run.elapsed_fits⟩

theorem timedAction_loggedOnce_iff {run : BlockRun O α} (hpermits : run.file.writable = true)
    (user action : String) :
    LoggedOnce run (timedAction env user action run) ↔
      Handled run.exit ∧ Encodable env.enc env.lower (.dict run.ctx.params) = true := by
  unfold timedAction
  cases hexit : run.exit with
  | ok a =>
    rw [loggedOnce_afterWrite env hpermits]
    simp [Handled]
  | error exc =>
    by_cases hexc : exc.isException = true
    · cases htext : exc.text with
      | none =>
        simp only [hexc, htext, if_true]
        exact iff_of_false not_loggedOnce (by simp [Handled, htext])
      | some text =>
        simp only [hexc, htext, if_true]
        rw [loggedOnce_afterWrite env hpermits]
        simp [Handled, hexc, htext]
    · simp only [if_neg hexc]
      exact iff_of_false not_loggedOnce fun h => hexc h.1.1

/-- Completeness: a block is logged once with its outcome unchanged exactly when it ends normally
    or by an `Exception` with a text, and its parameters can be encoded; `write` returns exactly
    when its values can be encoded. Secrecy holds of all parameters. -/
theorem timedAction_complete_iff {run : BlockRun O α} (hpermits : run.file.writable = true)
    (user action : String) :
    (LoggedOnce run (timedAction env user action run) ↔
        Handled run.exit ∧ Encodable env.enc env.lower (.dict run.ctx.params) = true) ∧
      (∀ (user action result : String) (params : PyEntries O) (durationMs : Int)
        (error : Option String) (file : LogFile),
        (write env user action params result durationMs error file).isSome ↔
          Writable env params durationMs) ∧
      ∀ v w : PyValue O, AgreeOutside env.lower v w → redact env.lower v = redact env.lower w :=
  ⟨timedAction_loggedOnce_iff env hpermits user action, isSome_write_iff env,
    fun _ _ => redact_congr⟩

/-! ### A cancelled block -/

/-- The surroundings of blocks whose other values are bytes, which `json.dumps` refuses. -/
def plainSurroundings : Surroundings (List UInt8) where
  enc := { valueText := fun _ => none, keyText := fun _ => none, plain := by simp }
  lower := id
  nowIso := "2026-10-05T12:00:00.000Z"

def emptyLog : LogFile := ⟨[], true⟩

def cancelledRun : BlockRun (List UInt8) Unit where
  exit := .error { isException := false, text := some "", className := "CancelledError" }
  ctx := { params := .cons (.str "port") (.str "/dev/ttyUSB0") .nil, error := none, result := none }
  file := emptyLog
  elapsedMs := 1500
  elapsed_fits := by decide

def finishedRun : BlockRun (List UInt8) Unit where
  exit := .ok ()
  ctx := { params := .cons (.str "port") (.str "/dev/ttyUSB0") .nil, error := none, result := none }
  file := emptyLog
  elapsedMs := 1500
  elapsed_fits := by decide

theorem timedAction_complete_finished :
    LoggedOnce finishedRun (timedAction plainSurroundings "admin" "firmware.flash" finishedRun) :=
  (timedAction_complete_iff plainSurroundings (show finishedRun.file.writable = true from rfl)
    "admin" "firmware.flash").1.mpr ⟨trivial, by decide⟩

/-- A cancelled action leaves no line, and `write` raises for a parameter of bytes. -/
theorem timedAction_cancelled :
    ¬ LoggedOnce cancelledRun
        (timedAction plainSurroundings "admin" "firmware.flash" cancelledRun) ∧
      write plainSurroundings "admin" "upload" (.cons (.str "head") (.object [0xFF]) .nil)
        "success" 0 none emptyLog = none :=
  ⟨not_loggedOnce, by decide⟩

end Meshpoint.AuditLog
