import Meshpoint.HostSession

/-!
# The WiFi connection

Model of `src/api/nmcli.py`: the terse lines that `nmcli -t` prints, and `wifi_connect`.
NetworkManager is a state that nmcli commands act on; `Behaves` is what is known of the two
commands of `wifi_connect`. After an attempt that failed the state is as before exactly when
nothing was there to delete (`wifiConnect_unchanged_iff`).
-/

namespace Meshpoint.WifiConnection

open HostSession

/-! ### Terse lines -/

/-- Where `_split_terse_line` stands in a line. -/
structure Splitter where
  fields : List (List Char) := []
  current : List Char := []
  escaped : Bool := false

def Splitter.step (st : Splitter) (ch : Char) : Splitter :=
  if st.escaped then { st with current := st.current ++ [ch], escaped := false }
  else if ch = '\\' then { st with escaped := true }
  else if ch = ':' then { st with fields := st.fields ++ [st.current], current := [] }
  else { st with current := st.current ++ [ch] }

/-- `_split_terse_line`. -/
def splitTerseLine (line : List Char) (fieldCount : Nat) : List (List Char) :=
  let st := line.foldl Splitter.step {}
  let fields := st.fields ++ [st.current]
  (fields ++ List.replicate (fieldCount - fields.length) []).take fieldCount

/-- How nmcli writes a field: with a backslash before each colon and each backslash. -/
def escapeField (field : List Char) : List Char :=
  field.flatMap fun ch => if ch = ':' ∨ ch = '\\' then ['\\', ch] else [ch]

def terseLine (fields : List (List Char)) : List Char :=
  List.intercalate [':'] (fields.map escapeField)

theorem foldl_escapeField (field : List Char) (st : Splitter) (hst : st.escaped = false) :
    (escapeField field).foldl Splitter.step st = { st with current := st.current ++ field } := by
  induction field generalizing st with
  | nil => simp [escapeField]
  | cons ch field ih =>
    have hread : (if ch = ':' ∨ ch = '\\' then ['\\', ch] else [ch]).foldl Splitter.step st =
        { st with current := st.current ++ [ch] } := by
      split
      · simp [Splitter.step, hst]
      · rename_i hch
        rw [not_or] at hch
        simp [Splitter.step, hst, hch.1, hch.2]
    have hrest := ih { st with current := st.current ++ [ch] } hst
    rw [escapeField] at hrest
    rw [escapeField, List.flatMap_cons, List.foldl_append, hread, hrest, List.append_assoc]
    rfl

theorem foldl_terseLine (field : List Char) (fields : List (List Char)) (st : Splitter)
    (hst : st.escaped = false) (hcur : st.current = []) :
    let st' := (terseLine (field :: fields)).foldl Splitter.step st
    st'.fields ++ [st'.current] = st.fields ++ field :: fields := by
  induction fields generalizing field st with
  | nil =>
    rw [terseLine, List.map_singleton, List.intercalate_singleton, foldl_escapeField field st hst]
    simp [hcur]
  | cons next fields ih =>
    rw [terseLine, List.map_cons, List.map_cons, List.intercalate_cons_cons, List.append_assoc,
      List.foldl_append, foldl_escapeField field st hst, List.foldl_append]
    refine (ih next _ ?_ ?_).trans ?_ <;> simp [Splitter.step, hst, hcur]

theorem splitTerseLine_terseLine {fields : List (List Char)} (hne : fields ≠ []) :
    splitTerseLine (terseLine fields) fields.length = fields := by
  obtain ⟨field, rest, rfl⟩ := List.exists_cons_of_ne_nil hne
  have hsplit := foldl_terseLine field rest {} rfl rfl
  simp only [List.nil_append] at hsplit
  simp only [splitTerseLine, hsplit]
  simp

theorem length_splitTerseLine (line : List Char) (fieldCount : Nat) :
    (splitTerseLine line fieldCount).length = fieldCount := by
  simp only [splitTerseLine, List.length_take, List.length_append, List.length_replicate]
  omega

/-- **Terse lines.** Any list of fields, also the empty one, comes back from the line that it is
    written as, and a split has the number of fields that was asked for, whatever the line. -/
theorem terseLine_split :
    (∀ fields : List (List Char), splitTerseLine (terseLine fields) fields.length = fields) ∧
      ∀ (line : List Char) (fieldCount : Nat),
        (splitTerseLine line fieldCount).length = fieldCount := by
  refine ⟨fun fields => ?_, length_splitTerseLine⟩
  by_cases hne : fields = []
  · subst hne
    exact List.eq_nil_of_length_eq_zero (length_splitTerseLine _ 0)
  · exact splitTerseLine_terseLine hne

/-! ### Connecting -/

/-- What NetworkManager keeps: the saved profiles under their names, and which are in use. -/
structure NetworkState (S : Type) where
  profiles : List (String × S)
  active : List String
  saved : ∀ name ∈ active, name ∈ profiles.map Prod.fst

variable {S : Type}

/-- The state without the profiles of a name, which are no longer in use either. -/
def NetworkState.delete (s : NetworkState S) (name : String) : NetworkState S where
  profiles := s.profiles.filter fun profile => profile.1 ≠ name
  active := s.active.filter fun other => other ≠ name
  saved := by
    intro other hother
    obtain ⟨hmem, hne⟩ := List.mem_filter.mp hother
    obtain ⟨profile, hprofile, rfl⟩ := List.mem_map.mp (s.saved other hmem)
    exact List.mem_map_of_mem (List.mem_filter.mpr ⟨hprofile, hne⟩)

theorem NetworkState.delete_eq_iff (s : NetworkState S) (name : String) :
    s.delete name = s ↔ name ∉ s.profiles.map Prod.fst := by
  constructor
  · intro heq hmem
    obtain ⟨profile, hprofile, rfl⟩ := List.mem_map.mp hmem
    have hkept : profile ∈ (s.delete profile.1).profiles := by
      rw [heq]
      exact hprofile
    simpa using (List.mem_filter.mp hkept).2
  · intro hnot
    have hprofiles : (s.delete name).profiles = s.profiles := by
      apply List.filter_eq_self.mpr
      intro profile hprofile
      have hne : profile.1 ≠ name := fun h => hnot (h ▸ List.mem_map_of_mem hprofile)
      simpa using hne
    have hactive : (s.delete name).active = s.active := by
      apply List.filter_eq_self.mpr
      intro other hother
      have hne : other ≠ name := fun h => hnot (h ▸ s.saved other hother)
      simpa using hne
    cases s
    simp only [NetworkState.delete, NetworkState.mk.injEq] at hprofiles hactive ⊢
    exact ⟨hprofiles, hactive⟩

/-- `(returncode, output)`. -/
structure Reply where
  returncode : Int
  output : String

/-- What is known of the commands: a deletion removes the profiles of the name, in use or not,
    and an attempt to connect that fails changes nothing. -/
structure Behaves (nmcli : List String → Session (NetworkState S) Reply) : Prop where
  delete : ∀ name s reply s',
    nmcli ["connection", "delete", name] s = (some reply, s') → s' = s.delete name
  connect : ∀ args s reply s', nmcli ("device" :: "wifi" :: "connect" :: args) s = (some reply, s') →
    reply.returncode ≠ 0 → s' = s

section

variable (nmcli : List String → Session (NetworkState S) Reply)

/-- `wifi_connect`, over `_run_nmcli`. -/
def wifiConnect (ssid password : String) : Session (NetworkState S) Reply :=
  if password ≠ "" then do
    let _ ← nmcli ["connection", "delete", ssid]
    nmcli ["device", "wifi", "connect", ssid, "password", password]
  else nmcli ["device", "wifi", "connect", ssid]

/-- The state that an attempt leaves the network in when it fails. -/
def stateAfterFailure (s : NetworkState S) (ssid password : String) : NetworkState S :=
  if password = "" then s else s.delete ssid

end

variable {nmcli : List String → Session (NetworkState S) Reply}

theorem wifiConnect_failed (hnmcli : Behaves nmcli) {ssid password : String}
    {s s' : NetworkState S} {reply : Reply}
    (hrun : wifiConnect nmcli ssid password s = (some reply, s')) (hfail : reply.returncode ≠ 0) :
    s' = stateAfterFailure s ssid password := by
  unfold wifiConnect at hrun
  by_cases hpassword : password = ""
  · rw [if_neg (not_not.mpr hpassword)] at hrun
    rw [stateAfterFailure, if_pos hpassword]
    exact hnmcli.connect _ _ _ _ hrun hfail
  · rw [if_pos hpassword] at hrun
    rw [stateAfterFailure, if_neg hpassword]
    cases hdelete : nmcli ["connection", "delete", ssid] s with
    | mk result deleted =>
      cases result with
      | none =>
        rw [bind_apply_none hdelete] at hrun
        cases hrun
      | some first =>
        rw [bind_apply_some hdelete] at hrun
        rw [hnmcli.connect _ _ _ _ hrun hfail]
        exact hnmcli.delete _ _ _ _ hdelete

/-- A failed attempt leaves the connection and the profiles alone exactly when there was no
    password, so that nothing was deleted, or no profile of that name. -/
theorem wifiConnect_unchanged_iff (hnmcli : Behaves nmcli) {ssid password : String}
    {s s' : NetworkState S} {reply : Reply}
    (hrun : wifiConnect nmcli ssid password s = (some reply, s')) (hfail : reply.returncode ≠ 0) :
    s' = s ↔ password = "" ∨ ssid ∉ s.profiles.map Prod.fst := by
  rw [wifiConnect_failed hnmcli hrun hfail, stateAfterFailure]
  by_cases hpassword : password = ""
  · simp [hpassword]
  · rw [if_neg hpassword, NetworkState.delete_eq_iff]
    simp [hpassword]

def outOfRange : List String → Session (NetworkState S) Reply
  | ["connection", "delete", name] => act fun s => (⟨0, ""⟩, s.delete name)
  | _ => act fun s => (⟨10, "Error: No network with SSID found."⟩, s)

theorem behaves_outOfRange : Behaves (outOfRange (S := S)) where
  delete := by
    intro name s reply s' hrun
    cases hrun
    rfl
  connect := by
    intro args s reply s' hrun _
    cases hrun
    rfl

/-- A station in use through the profile `Home`. -/
def atHome : NetworkState Unit where
  profiles := [("Home", ())]
  active := ["Home"]
  saved := by simp

theorem wifiConnect_unchanged_at_home :
    (wifiConnect outOfRange "Home" "" atHome).2 = atHome ∧
      (wifiConnect outOfRange "Home" "wrong" atHome).2 ≠ atHome := by
  have hreuse : wifiConnect outOfRange "Home" "" atHome =
      (some ⟨10, "Error: No network with SSID found."⟩, atHome) := rfl
  have hretype : wifiConnect outOfRange "Home" "wrong" atHome =
      (some ⟨10, "Error: No network with SSID found."⟩, atHome.delete "Home") := rfl
  rw [hreuse, hretype]
  constructor
  · exact (wifiConnect_unchanged_iff behaves_outOfRange hreuse (by decide)).mpr (.inl rfl)
  · intro heq
    have h := (wifiConnect_unchanged_iff behaves_outOfRange hretype (by decide)).mp heq
    simp [atHome] at h

/-- A wrong password for the network in use takes the station off it. -/
theorem wifiConnect_disconnects :
    ¬ ∀ (nmcli : List String → Session (NetworkState Unit) Reply), Behaves nmcli →
      ∀ ssid password s reply s', wifiConnect nmcli ssid password s = (some reply, s') →
        reply.returncode ≠ 0 → s'.active = s.active ∧ s'.profiles = s.profiles := by
  intro h
  have hkept := h outOfRange behaves_outOfRange "Home" "wrong" atHome _ _ rfl (by decide)
  cases hkept.1

end Meshpoint.WifiConnection
