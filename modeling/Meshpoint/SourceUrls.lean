import Meshpoint.ByteCodec
import Meshpoint.PyText
import Meshpoint.UrlPath

/-!
# The URLs of a plugin source

Model of the first part of `src/plugins/sources.py`: the owner and the repository of a GitHub URL,
the ref of a source, and the URLs that are built from them.  A text is the list of its characters.

An accepted source is contained when its owner and its repository are ordinary names, the URLs for
the catalog, the archive and the commits lie under them once dot segments are removed, and the
canonical URL leads back to them.  `contained_addresses_iff` says for which URLs this holds.
-/

namespace Meshpoint.SourceUrls

open TarArchive UrlPath
open PyText (forall_eq_false_of_all)

abbrev Text := List Char

/-! ### Python texts -/

/-- `text.strip()`. -/
def strip (text : Text) : Text :=
  ((text.dropWhile PyText.isSpace).reverse.dropWhile PyText.isSpace).reverse

def dropPrefix (start text : Text) : Option Text :=
  if start <+: text then some (text.drop start.length) else none

/-- `text.partition("/")`; `none` without a slash. -/
def partition : Text → Option (Text × Text)
  | [] => none
  | c :: rest =>
    if c = '/' then some ([], rest) else (partition rest).map fun parts => (c :: parts.1, parts.2)

/-- The characters `quote` keeps. -/
def isUnreserved (c : Char) : Bool :=
  c.isAlphanum || c = '_' || c = '.' || c = '-' || c = '~'

/-- `quote(text, safe="")`. -/
def quote (text : Text) : Text :=
  text.flatMap fun c =>
    if isUnreserved c then [c]
    else
      (String.utf8EncodeChar c).flatMap fun b =>
        '%' :: (ByteCodec.hexFixed 2 b.toNat).map Char.toUpper

/-! ### The two patterns -/

/-- `PluginSourceError`. -/
structure PluginSourceError where
  code : String
  message : String
deriving DecidableEq, Repr

/-- What `(?:\.git)?/?$` matches, the longest first.  A stripped text does not end in the line
    break that `$` allows. -/
def TAILS : List Text := [".git/".toList, ".git".toList, "/".toList, []]

/-- What a lazy group before `(?:\.git)?/?$` matches: as little as can be, but not nothing. -/
def lazyGroup (text : Text) : Option Text :=
  (TAILS.find? fun tail => tail <:+ text ∧ tail.length < text.length).map fun tail =>
    text.take (text.length - tail.length)

/-- What follows `[^@/]+@`. -/
def afterUser (text : Text) : Option Text :=
  let user := text.takeWhile fun c => c ≠ '@' ∧ c ≠ '/'
  match text.drop user.length with
  | '@' :: rest => if user = [] then none else some rest
  | _ => none

/-- What follows `https?://(?:[^@/]+@)?github\.com/`. -/
def httpsRest (url : Text) : Option Text :=
  ((dropPrefix "https://".toList url).or (dropPrefix "http://".toList url)).bind fun text =>
    ((afterUser text).bind (dropPrefix "github.com/".toList)).or
      (dropPrefix "github.com/".toList text)

/-- The group of `_HTTPS_URL_RE`: `[^/]+/[^/]+?`. -/
def httpsGroup (url : Text) : Option Text :=
  (httpsRest url).bind fun rest =>
    (partition rest).bind fun (owner, body) =>
      (lazyGroup body).bind fun repo =>
        if owner ≠ [] ∧ '/' ∉ repo then some (owner ++ '/' :: repo) else none

/-- What follows `git@github\.com:`. -/
def sshRest (url : Text) : Option Text := dropPrefix "git@github.com:".toList url

/-- The group of `_SSH_URL_RE`: `.+?`, which goes over no line break. -/
def sshGroup (url : Text) : Option Text :=
  (sshRest url).bind fun rest => if '\n' ∈ rest then none else lazyGroup rest

/-- `owner, _, repo = group.partition("/")`, where both are set and no slash is left. -/
def ownerAndRepo (group : Text) : Option (Text × Text) :=
  (partition group).filter fun (owner, repo) => owner ≠ [] ∧ repo ≠ [] ∧ '/' ∉ repo

/-! ### Owner, repository and ref -/

/-- `parse_github_url`. -/
def parseGithubUrl (url : Text) : Except PluginSourceError (Text × Text) :=
  match ((httpsGroup (strip url)).bind ownerAndRepo).or ((sshGroup (strip url)).bind ownerAndRepo)
  with
  | some names => .ok names
  | none =>
    .error ⟨"url",
      "must be a github.com repository URL, e.g. https://github.com/you/meshpoint-plugins"⟩

def isRefChar (c : Char) : Bool := c.isAlphanum || c = '.' || c = '_' || c = '-' || c = '/'

/-- `normalise_ref`. -/
def normaliseRef (ref : Option Text) : Except PluginSourceError Text :=
  let stripped := strip (ref.getD [])
  let ref := if stripped = [] then "main".toList else stripped
  if (ref.length ≤ 100 ∧ ref.all isRefChar = true) ∧ ref.head? ≠ some '/' ∧
      ref.getLast? ≠ some '/' ∧ "..".toList ∉ segments ref then .ok ref
  else .error ⟨"ref", "ref must be a branch, tag or commit SHA"⟩

/-! ### URLs -/

/-- `canonical_url`. -/
def canonicalUrl (owner repo : Text) : Text :=
  "https://github.com/".toList ++ owner ++ '/' :: repo

def MESHPOINT_REPO_MANIFEST : Text := "repo.json".toList

/-- `catalog_raw_url`. -/
def catalogRawUrl (owner repo ref : Text) : Text :=
  "https://raw.githubusercontent.com/".toList ++ owner ++ '/' :: repo ++ '/' :: ref ++
    '/' :: MESHPOINT_REPO_MANIFEST

/-- `tarball_url`. -/
def tarballUrl (owner repo ref : Text) : Text :=
  "https://api.github.com/repos/".toList ++ owner ++ '/' :: repo ++ "/tarball/".toList ++ ref

/-- `commits_api_url`. -/
def commitsApiUrl (owner repo ref : Text) : Text :=
  "https://api.github.com/repos/".toList ++ owner ++ '/' :: repo ++ "/commits?sha=".toList ++
    quote ref ++ "&per_page=1".toList

/-! ### Containment -/

def isNameChar (c : Char) : Bool := c.isAlphanum || c = '-' || c = '_' || c = '.'

/-- A name GitHub could give: no dot segment, and of letters, digits, `-`, `_` and `.`. -/
structure Ordinary (name : Text) : Prop where
  ne_nil : name ≠ []
  ne_dot : name ≠ ['.']
  ne_dots : name ≠ ['.', '.']
  chars : name.all isNameChar = true

/-- The path of the URL begins with the names when its dot segments are removed. -/
def Under (names : Path) (url : Text) : Prop :=
  names <+: removeDotSegments (pathSegments url)

/-- What is fetched for the source lies in its repository. -/
structure Contained (owner repo ref : Text) : Prop where
  owner_ordinary : Ordinary owner
  repo_ordinary : Ordinary repo
  catalog : Under [owner, repo] (catalogRawUrl owner repo ref)
  tarball : Under ["repos".toList, owner, repo] (tarballUrl owner repo ref)
  commits : Under ["repos".toList, owner, repo] (commitsApiUrl owner repo ref)
  canonical : parseGithubUrl (canonicalUrl owner repo) = .ok (owner, repo)

/-- The URL names an ordinary owner and an ordinary repository, and what it says behind them is
    not said twice. -/
def SpelledPlainly (url : Text) : Prop :=
  ∃ rest owner repo tail,
    (httpsRest (strip url) = some rest ∨ sshRest (strip url) = some rest) ∧
      rest = owner ++ '/' :: (repo ++ tail) ∧ tail ∈ TAILS ∧ Ordinary owner ∧ Ordinary repo ∧
      ∀ stem, repo = stem ++ ".git".toList → stem = []

/-! ### Reading a URL -/

theorem ite_error_eq_ok {ε α : Type} {c : Prop} [Decidable c] {e : ε} {a b : α} :
    (if c then (.ok a : Except ε α) else .error e) = .ok b ↔ c ∧ a = b := by
  split
  · rename_i hc
    simp [hc]
  · rename_i hc
    simp [hc]

theorem dropPrefix_eq_some_iff {start text rest : Text} :
    dropPrefix start text = some rest ↔ text = start ++ rest := by
  rw [dropPrefix]
  constructor
  · intro h
    split at h
    · rename_i hstart
      obtain ⟨rest', rfl⟩ := hstart
      rw [List.drop_left] at h
      rw [Option.some.inj h]
    · cases h
  · rintro rfl
    rw [if_pos (List.prefix_append start rest), List.drop_left]

theorem httpsRest_of_sshRest {url rest : Text} (h : sshRest url = some rest) :
    httpsRest url = none := by
  obtain rfl := dropPrefix_eq_some_iff.mp h
  rfl

theorem rest_unique {url rest rest' : Text} (h : httpsRest url = some rest ∨ sshRest url = some rest)
    (h' : httpsRest url = some rest' ∨ sshRest url = some rest') : rest = rest' := by
  obtain h | h := h
  · obtain h' | h' := h'
    · exact Option.some.inj (h.symm.trans h')
    · rw [httpsRest_of_sshRest h'] at h
      cases h
  · obtain h' | h' := h'
    · rw [httpsRest_of_sshRest h] at h'
      cases h'
    · exact Option.some.inj (h.symm.trans h')

theorem partition_eq_some_iff {text before after : Text} :
    partition text = some (before, after) ↔ text = before ++ '/' :: after ∧ '/' ∉ before := by
  induction text generalizing before with
  | nil =>
    constructor
    · intro h
      cases h
    · rintro ⟨h, -⟩
      exact absurd h.symm (List.append_ne_nil_of_right_ne_nil before (List.cons_ne_nil _ _))
  | cons c rest ih =>
    rw [partition]
    split
    · rename_i hc
      rw [hc]
      constructor
      · intro h
        cases h
        exact ⟨rfl, List.not_mem_nil⟩
      · rintro ⟨h, hslash⟩
        cases before with
        | nil =>
          cases h
          rfl
        | cons b before =>
          obtain ⟨rfl, -⟩ := List.cons.inj h
          exact absurd List.mem_cons_self hslash
    · rename_i hc
      constructor
      · intro h
        obtain ⟨⟨before', after'⟩, hparts, heq⟩ := Option.map_eq_some_iff.mp h
        cases heq
        obtain ⟨rfl, hslash⟩ := ih.mp hparts
        refine ⟨rfl, ?_⟩
        rw [List.mem_cons, not_or]
        exact ⟨Ne.symm hc, hslash⟩
      · rintro ⟨h, hslash⟩
        cases before with
        | nil => exact absurd (List.cons.inj h).1 hc
        | cons b before =>
          obtain ⟨rfl, hrest⟩ := List.cons.inj h
          rw [List.mem_cons, not_or] at hslash
          rw [ih.mpr ⟨hrest, hslash.2⟩]
          rfl

theorem ownerAndRepo_eq_some_iff {group owner repo : Text} :
    ownerAndRepo group = some (owner, repo) ↔
      group = owner ++ '/' :: repo ∧ '/' ∉ owner ∧ owner ≠ [] ∧ repo ≠ [] ∧ '/' ∉ repo := by
  rw [ownerAndRepo, Option.filter_eq_some_iff, partition_eq_some_iff, decide_eq_true_iff, and_assoc]

theorem lazyGroup_of_find? {group tail : Text}
    (h : TAILS.find? (fun other => other <:+ group ++ tail ∧ other.length < (group ++ tail).length) =
      some tail) : lazyGroup (group ++ tail) = some group := by
  rw [lazyGroup, h, Option.map_some, List.length_append, Nat.add_sub_cancel, List.take_left]

theorem not_suffix_of_getLast? {other text : Text} (hne : other ≠ [])
    (h : text.getLast? ≠ other.getLast?) : ¬ other <:+ text := by
  rintro ⟨front, rfl⟩
  rw [List.getLast?_append_of_ne_nil front hne] at h
  exact h rfl

theorem lazyGroup_append {group tail : Text} (hgroup : group ≠ []) (htail : tail ∈ TAILS)
    (hslash : tail = [] → group.getLast? ≠ some '/')
    (hgit : tail = [] ∨ tail = ['/'] → ∀ stem, group = stem ++ ".git".toList → stem = []) :
    lazyGroup (group ++ tail) = some group := by
  have hlength : 0 < group.length := List.length_pos_iff.mpr hgroup
  have hwhole : (tail = [] ∨ tail = ['/']) → ¬ (".git".toList <:+ group ∧ 4 < group.length) := by
    rintro ht ⟨⟨stem, hstem⟩, hlong⟩
    obtain rfl := hgit ht stem hstem.symm
    rw [← hstem] at hlong
    exact absurd hlong (by decide)
  apply lazyGroup_of_find?
  rw [TAILS] at htail ⊢
  simp only [List.mem_cons, List.not_mem_nil, or_false] at htail
  obtain rfl | rfl | rfl | rfl := htail
  · refine List.find?_cons_of_pos (decide_eq_true ⟨List.suffix_append _ _, ?_⟩)
    rw [List.length_append]
    omega
  · rw [List.find?_cons_of_neg, List.find?_cons_of_pos]
    · refine decide_eq_true ⟨List.suffix_append _ _, ?_⟩
      rw [List.length_append]
      omega
    · intro h
      refine not_suffix_of_getLast? (by decide) ?_ (of_decide_eq_true h).1
      rw [List.getLast?_append_of_ne_nil _ (by decide)]
      decide
  · rw [List.find?_cons_of_neg, List.find?_cons_of_neg, List.find?_cons_of_pos]
    · refine decide_eq_true ⟨List.suffix_append _ _, ?_⟩
      rw [List.length_append]
      omega
    · intro h
      refine not_suffix_of_getLast? (by decide) ?_ (of_decide_eq_true h).1
      rw [List.getLast?_append_of_ne_nil _ (by decide)]
      decide
    · intro h
      obtain ⟨⟨front, hfront⟩, hlong⟩ := of_decide_eq_true h
      refine hwhole (.inr rfl) ⟨⟨front, ?_⟩, ?_⟩
      · refine List.append_cancel_right (?_ : front ++ ".git".toList ++ "/".toList = _)
        rw [List.append_assoc]
        exact hfront
      · rw [List.length_append] at hlong
        exact Nat.lt_of_succ_lt_succ hlong
  · rw [List.append_nil, List.find?_cons_of_neg, List.find?_cons_of_neg, List.find?_cons_of_neg,
      List.find?_cons_of_pos]
    · exact decide_eq_true ⟨List.nil_suffix, hlength⟩
    · intro h
      exact hslash rfl (List.singleton_suffix_iff_getLast?_eq_some.mp (of_decide_eq_true h).1)
    · intro h
      exact hwhole (.inl rfl) (of_decide_eq_true h)
    · intro h
      obtain ⟨front, rfl⟩ := (of_decide_eq_true h).1
      refine hslash rfl ?_
      rw [List.getLast?_append_of_ne_nil _ (by decide)]
      decide

theorem of_lazyGroup {text group : Text} (h : lazyGroup text = some group) :
    group ≠ [] ∧ ∃ tail ∈ TAILS, text = group ++ tail ∧
      (tail = [] ∨ tail = ['/'] → ∀ stem, group = stem ++ ".git".toList → stem = []) := by
  obtain ⟨tail, htail, htake⟩ := Option.map_eq_some_iff.mp h
  have htaken := List.find?_some htail
  obtain ⟨⟨front, hfront⟩, hlength⟩ := of_decide_eq_true htaken
  have hgroup : group = front := by
    rw [← htake, ← hfront, List.length_append, Nat.add_sub_cancel, List.take_left]
  refine ⟨?_, tail, List.mem_of_find?_eq_some htail, ?_, ?_⟩
  · rw [hgroup]
    rintro rfl
    rw [← hfront] at hlength
    exact absurd hlength (lt_irrefl _)
  · rw [hgroup, hfront]
  · intro ht stem hstem
    by_contra hne
    have hlonger : ".git".toList ++ tail ∈ TAILS := by
      obtain rfl | rfl := ht
      · decide
      · decide
    have htext : text = stem ++ (".git".toList ++ tail) := by
      rw [← List.append_assoc, ← hstem, hgroup, hfront]
    have hlazy : lazyGroup text = some stem := by
      rw [htext]
      refine lazyGroup_append hne hlonger ?_ ?_
      · intro hnil
        exact absurd (List.append_eq_nil_iff.mp hnil).1 (by decide)
      · obtain rfl | rfl := ht
        · exact fun hshort => absurd hshort (by decide)
        · exact fun hshort => absurd hshort (by decide)
    rw [h] at hlazy
    have hsame := congrArg List.length ((Option.some.inj hlazy).symm.trans hstem)
    rw [List.length_append] at hsame
    exact absurd hsame (Nat.ne_of_lt (Nat.lt_add_of_pos_right (by decide)))

theorem getLast?_ne_slash {name : Text} (h : '/' ∉ name) : name.getLast? ≠ some '/' :=
  fun hlast => h (List.mem_of_getLast? hlast)

/-! ### What an accepted URL names -/

theorem of_parseGithubUrl {url owner repo : Text} (h : parseGithubUrl url = .ok (owner, repo)) :
    ∃ rest body, (httpsRest (strip url) = some rest ∨ sshRest (strip url) = some rest) ∧
      rest = owner ++ '/' :: body ∧ lazyGroup body = some repo ∧ '/' ∉ owner ∧ '/' ∉ repo := by
  rw [parseGithubUrl] at h
  split at h
  · rename_i names hnames
    cases h
    rw [Option.or_eq_some_iff] at hnames
    obtain hhttps | ⟨-, hssh⟩ := hnames
    · obtain ⟨group, hgroup, hparts⟩ := Option.bind_eq_some_iff.mp hhttps
      obtain ⟨rest, hrest, hgroup⟩ := Option.bind_eq_some_iff.mp hgroup
      obtain ⟨⟨owner', body⟩, hpartition, hgroup⟩ := Option.bind_eq_some_iff.mp hgroup
      obtain ⟨repo', hbody, hgroup⟩ := Option.bind_eq_some_iff.mp hgroup
      obtain ⟨-, heq⟩ := Option.ite_none_right_eq_some.mp hgroup
      obtain ⟨rfl, hslash'⟩ := partition_eq_some_iff.mp hpartition
      obtain ⟨hsplit, hslash, -, -, hrepo⟩ := ownerAndRepo_eq_some_iff.mp hparts
      -- the group is parted where it was put together
      have hsame := partition_eq_some_iff.mpr ⟨hsplit, hslash⟩
      rw [← Option.some.inj heq, partition_eq_some_iff.mpr ⟨rfl, hslash'⟩] at hsame
      cases hsame
      exact ⟨_, body, .inl hrest, rfl, hbody, hslash, hrepo⟩
    · obtain ⟨group, hgroup, hparts⟩ := Option.bind_eq_some_iff.mp hssh
      obtain ⟨rest, hrest, hgroup⟩ := Option.bind_eq_some_iff.mp hgroup
      obtain ⟨-, hlazy⟩ := Option.ite_none_left_eq_some.mp hgroup
      obtain ⟨hsplit, hslash, -, hne, hrepo⟩ := ownerAndRepo_eq_some_iff.mp hparts
      obtain ⟨-, tail, htail, rfl, hgit⟩ := of_lazyGroup hlazy
      refine ⟨_, repo ++ tail, .inr hrest, ?_, ?_, hslash, hrepo⟩
      · rw [hsplit, List.append_assoc, List.cons_append]
      · refine lazyGroup_append hne htail (fun _ => getLast?_ne_slash hrepo) ?_
        intro ht stem hstem
        have hnil := hgit ht (owner ++ '/' :: stem) (by
          rw [hsplit, hstem, List.append_assoc, List.cons_append])
        exact absurd hnil (List.append_ne_nil_of_right_ne_nil owner (List.cons_ne_nil _ _))
  · cases h

theorem parseGithubUrl_of_httpsRest {url owner repo tail : Text}
    (hrest : httpsRest (strip url) = some (owner ++ '/' :: (repo ++ tail)))
    (howner : owner ≠ []) (hslash : '/' ∉ owner) (hrepo : '/' ∉ repo)
    (hlazy : lazyGroup (repo ++ tail) = some repo) :
    parseGithubUrl url = .ok (owner, repo) := by
  have hgroup : httpsGroup (strip url) = some (owner ++ '/' :: repo) := by
    rw [httpsGroup, hrest, Option.bind_some, partition_eq_some_iff.mpr ⟨rfl, hslash⟩,
      Option.bind_some]
    dsimp only
    rw [hlazy, Option.bind_some, if_pos ⟨howner, hrepo⟩]
  have hparts : ownerAndRepo (owner ++ '/' :: repo) = some (owner, repo) :=
    ownerAndRepo_eq_some_iff.mpr ⟨rfl, hslash, howner, (of_lazyGroup hlazy).1, hrepo⟩
  rw [parseGithubUrl, hgroup, Option.bind_some, hparts]
  rfl

/-! ### Ordinary names -/

theorem not_mem_of_all {p : Char → Bool} {text : Text} {c : Char} (h : text.all p = true)
    (hc : p c = false) : c ∉ text := by
  intro hmem
  rw [List.all_eq_true.mp h c hmem] at hc
  cases hc

theorem Ordinary.slash {name : Text} (h : Ordinary name) : '/' ∉ name :=
  not_mem_of_all h.chars (by decide)

theorem Ordinary.percent {name : Text} (h : Ordinary name) : '%' ∉ name :=
  not_mem_of_all h.chars (by decide)

theorem Ordinary.not_dots {name : Text} (h : Ordinary name) :
    isSingleDot name = false ∧ isDoubleDot name = false := by
  rw [isSingleDot, isDoubleDot, decodeDots_of_not_mem h.percent]
  exact ⟨decide_eq_false h.ne_dot, decide_eq_false h.ne_dots⟩

theorem isSpace_of_isNameChar {c : Char} (h : isNameChar c = true) : PyText.isSpace c = false := by
  have hcodes : ∀ n ∈ PyText.spaceCodes, isNameChar (Char.ofNat n) = false := by decide
  rw [← Bool.not_eq_true]
  intro hspace
  have hmem := List.contains_iff_mem.mp hspace
  rw [← Char.ofNat_toNat c, hcodes _ hmem] at h
  cases h

theorem strip_eq_self {c d : Char} {text : Text} (hc : PyText.isSpace c = false)
    (hd : PyText.isSpace d = false) (hfirst : text.head? = some c)
    (hlast : text.getLast? = some d) : strip text = text := by
  obtain ⟨rest, rfl⟩ := List.head?_eq_some_iff.mp hfirst
  rw [strip, List.dropWhile_cons_of_neg (by simp [hc])]
  rw [← List.head?_reverse] at hlast
  obtain ⟨rest', hreverse⟩ := List.head?_eq_some_iff.mp hlast
  rw [hreverse, List.dropWhile_cons_of_neg (by simp [hd]), ← hreverse, List.reverse_reverse]

theorem strip_canonicalUrl {owner repo : Text} (h : Ordinary repo) :
    strip (canonicalUrl owner repo) = canonicalUrl owner repo := by
  have hfirst : (canonicalUrl owner repo).head? = some 'h' := by
    unfold canonicalUrl
    simp
  have hlast : (canonicalUrl owner repo).getLast? = some (repo.getLast h.ne_nil) := by
    unfold canonicalUrl
    rw [List.getLast?_append_of_ne_nil _ (List.cons_ne_nil _ _),
      List.getLast?_cons_of_ne_nil h.ne_nil, List.getLast?_eq_some_getLast h.ne_nil]
  have hmem : repo.getLast h.ne_nil ∈ repo := List.getLast_mem h.ne_nil
  exact strip_eq_self (by decide)
    (isSpace_of_isNameChar (List.all_eq_true.mp h.chars _ hmem)) hfirst hlast

theorem afterUser_github (rest : Text) : afterUser ("github.com".toList ++ '/' :: rest) = none := by
  have huser : ("github.com".toList ++ '/' :: rest).takeWhile (fun c => c ≠ '@' ∧ c ≠ '/') =
      "github.com".toList := by
    rw [List.takeWhile_append_of_pos (List.all_eq_true.mp (by decide)),
      List.takeWhile_cons_of_neg (by decide), List.append_nil]
  rw [afterUser, huser, List.drop_left]
  rfl

theorem httpsRest_canonicalUrl (owner repo : Text) :
    httpsRest (canonicalUrl owner repo) = some (owner ++ '/' :: repo) := by
  have hurl : canonicalUrl owner repo =
      "https://".toList ++ ("github.com/".toList ++ (owner ++ '/' :: repo)) := by
    unfold canonicalUrl
    simp
  have hhost : "github.com/".toList ++ (owner ++ '/' :: repo) =
      "github.com".toList ++ '/' :: (owner ++ '/' :: repo) := by
    simp
  rw [httpsRest, dropPrefix_eq_some_iff.mpr hurl, Option.some_or, Option.bind_some, hhost,
    afterUser_github, Option.bind_none, Option.none_or, ← hhost, dropPrefix_eq_some_iff.mpr rfl]

/-! ### Where the URLs lead -/

theorem of_normaliseRef {ref : Option Text} {ref' : Text} (h : normaliseRef ref = .ok ref') :
    ref'.all isRefChar = true ∧ "..".toList ∉ segments ref' := by
  rw [normaliseRef] at h
  obtain ⟨haccepted, heq⟩ := ite_error_eq_ok.mp h
  rw [← heq]
  exact ⟨haccepted.1.2, haccepted.2.2.2⟩

theorem endsPath_of_isRefChar {c : Char} (h : isRefChar c = true) : endsPath c = false := by
  rw [← Bool.not_eq_true]
  intro hends
  obtain rfl | rfl : c = '?' ∨ c = '#' := by simpa [endsPath] using hends
  · cases h
  · cases h

theorem endsPath_of_isNameChar {c : Char} (h : isNameChar c = true) : endsPath c = false := by
  rw [← Bool.not_eq_true]
  intro hends
  obtain rfl | rfl : c = '?' ∨ c = '#' := by simpa [endsPath] using hends
  · cases h
  · cases h

theorem pathSegments_https {host names query : Text}
    (hhost : ∀ c ∈ host, endsAuthority c = false) (hnames : ∀ c ∈ names, endsPath c = false)
    (hquery : query = [] ∨ query.head? = some '?') :
    pathSegments ("https://".toList ++ (host ++ '/' :: (names ++ query))) = segments names := by
  have hscheme : "https://".toList ++ (host ++ '/' :: (names ++ query)) =
      "https".toList ++ ':' :: '/' :: '/' :: (host ++ '/' :: (names ++ query)) := by
    simp
  rw [hscheme, pathSegments_append (by decide) hhost hnames hquery]

theorem Ordinary.endsPath {name : Text} (h : Ordinary name) : ∀ c ∈ name, endsPath c = false :=
  fun c hc => endsPath_of_isNameChar (List.all_eq_true.mp h.chars c hc)

theorem Ordinary.segments {name : Text} (h : Ordinary name) : segments name = [name] :=
  segments_of_not_mem h.slash

theorem not_isDoubleDot_of_ref {ref : Text} (hchars : ref.all isRefChar = true)
    (hdots : "..".toList ∉ segments ref) : ∀ name ∈ segments ref, isDoubleDot name = false := by
  intro name hname
  have hpercent : '%' ∉ name := fun hmem =>
    not_mem_of_all hchars (by decide) (mem_of_mem_segments hname hmem)
  rw [isDoubleDot, decodeDots_of_not_mem hpercent]
  refine decide_eq_false ?_
  rintro rfl
  exact hdots hname

theorem under_https {host path query : Text} {names rest : Path}
    (hhost : ∀ c ∈ host, endsAuthority c = false) (hpath : ∀ c ∈ path, endsPath c = false)
    (hquery : query = [] ∨ query.head? = some '?') (hsegments : segments path = names ++ rest)
    (hnames : ∀ name ∈ names, isSingleDot name = false ∧ isDoubleDot name = false)
    (hrest : ∀ name ∈ rest, isDoubleDot name = false) :
    Under names ("https://".toList ++ (host ++ '/' :: (path ++ query))) := by
  rw [Under, pathSegments_https hhost hpath hquery, hsegments]
  exact prefix_removeDotSegments hnames hrest

section Urls

variable {owner repo ref : Text} (howner : Ordinary owner) (hrepo : Ordinary repo)
  (hchars : ref.all isRefChar = true) (hdots : "..".toList ∉ segments ref)
include howner hrepo hchars hdots

theorem under_catalogRawUrl : Under [owner, repo] (catalogRawUrl owner repo ref) := by
  have hurl : catalogRawUrl owner repo ref = "https://".toList ++
      ("raw.githubusercontent.com".toList ++ '/' ::
        ((owner ++ '/' :: (repo ++ '/' :: (ref ++ '/' :: MESHPOINT_REPO_MANIFEST))) ++ [])) := by
    unfold catalogRawUrl
    simp
  have hnames : ∀ c ∈ owner ++ '/' :: (repo ++ '/' :: (ref ++ '/' :: MESHPOINT_REPO_MANIFEST)),
      endsPath c = false := by
    simp only [List.forall_mem_append, List.forall_mem_cons]
    exact ⟨howner.endsPath, rfl, hrepo.endsPath, rfl,
      fun c hc => endsPath_of_isRefChar (List.all_eq_true.mp hchars c hc), rfl,
      forall_eq_false_of_all (by decide)⟩
  have hsegments : segments (owner ++ '/' :: (repo ++ '/' :: (ref ++ '/' ::
      MESHPOINT_REPO_MANIFEST))) = [owner, repo] ++ (segments ref ++ ["repo.json".toList]) := by
    rw [segments_append, segments_append, segments_append, howner.segments, hrepo.segments]
    rfl
  rw [hurl]
  apply under_https (forall_eq_false_of_all (by decide)) hnames (.inl rfl) hsegments
  · simp only [List.forall_mem_cons]
    exact ⟨howner.not_dots, hrepo.not_dots, fun name hname => nomatch hname⟩
  · simp only [List.forall_mem_append, List.forall_mem_cons]
    exact ⟨not_isDoubleDot_of_ref hchars hdots, by decide +kernel, fun name hname => nomatch hname⟩

theorem under_tarballUrl : Under ["repos".toList, owner, repo] (tarballUrl owner repo ref) := by
  have hurl : tarballUrl owner repo ref = "https://".toList ++ ("api.github.com".toList ++ '/' ::
      (("repos".toList ++ '/' :: (owner ++ '/' :: (repo ++ '/' :: ("tarball".toList ++ '/' :: ref))))
        ++ [])) := by
    unfold tarballUrl
    simp
  have hnames : ∀ c ∈ "repos".toList ++ '/' ::
      (owner ++ '/' :: (repo ++ '/' :: ("tarball".toList ++ '/' :: ref))), endsPath c = false := by
    simp only [List.forall_mem_append, List.forall_mem_cons]
    exact ⟨forall_eq_false_of_all (by decide), rfl, howner.endsPath, rfl, hrepo.endsPath, rfl,
      forall_eq_false_of_all (by decide), rfl,
      fun c hc => endsPath_of_isRefChar (List.all_eq_true.mp hchars c hc)⟩
  have hsegments : segments ("repos".toList ++ '/' ::
      (owner ++ '/' :: (repo ++ '/' :: ("tarball".toList ++ '/' :: ref)))) =
        ["repos".toList, owner, repo] ++ ("tarball".toList :: segments ref) := by
    rw [segments_append, segments_append, segments_append, segments_append, howner.segments,
      hrepo.segments]
    rfl
  rw [hurl]
  apply under_https (forall_eq_false_of_all (by decide)) hnames (.inl rfl) hsegments
  · simp only [List.forall_mem_cons]
    exact ⟨by decide +kernel, howner.not_dots, hrepo.not_dots, fun name hname => nomatch hname⟩
  · simp only [List.forall_mem_cons]
    exact ⟨by decide +kernel, not_isDoubleDot_of_ref hchars hdots⟩

omit hchars hdots in
theorem under_commitsApiUrl :
    Under ["repos".toList, owner, repo] (commitsApiUrl owner repo ref) := by
  have hurl : commitsApiUrl owner repo ref = "https://".toList ++ ("api.github.com".toList ++ '/' ::
      (("repos".toList ++ '/' :: (owner ++ '/' :: (repo ++ '/' :: "commits".toList))) ++
        '?' :: ("sha=".toList ++ quote ref ++ "&per_page=1".toList))) := by
    unfold commitsApiUrl
    simp
  have hnames : ∀ c ∈ "repos".toList ++ '/' :: (owner ++ '/' :: (repo ++ '/' :: "commits".toList)),
      endsPath c = false := by
    simp only [List.forall_mem_append, List.forall_mem_cons]
    exact ⟨forall_eq_false_of_all (by decide), rfl, howner.endsPath, rfl, hrepo.endsPath, rfl,
      forall_eq_false_of_all (by decide)⟩
  have hsegments : segments ("repos".toList ++ '/' ::
      (owner ++ '/' :: (repo ++ '/' :: "commits".toList))) =
        ["repos".toList, owner, repo] ++ ["commits".toList] := by
    rw [segments_append, segments_append, segments_append, howner.segments, hrepo.segments]
    rfl
  rw [hurl]
  apply under_https (forall_eq_false_of_all (by decide)) hnames (.inr rfl) hsegments
  · simp only [List.forall_mem_cons]
    exact ⟨by decide +kernel, howner.not_dots, hrepo.not_dots, fun name hname => nomatch hname⟩
  · simp only [List.forall_mem_cons]
    exact ⟨by decide +kernel, fun name hname => nomatch hname⟩

end Urls

/-- The canonical URL leads back where the repository does not end in `.git`, but for that
    name itself. -/
theorem parseGithubUrl_canonicalUrl_iff {owner repo : Text} (howner : Ordinary owner)
    (hrepo : Ordinary repo) :
    parseGithubUrl (canonicalUrl owner repo) = .ok (owner, repo) ↔
      ∀ stem, repo = stem ++ ".git".toList → stem = [] := by
  have hrest : httpsRest (strip (canonicalUrl owner repo)) =
      some (owner ++ '/' :: (repo ++ [])) := by
    rw [strip_canonicalUrl hrepo, httpsRest_canonicalUrl, List.append_nil]
  constructor
  · intro h
    obtain ⟨rest, body, hrest', hsplit, hlazy, hslash, -⟩ := of_parseGithubUrl h
    obtain rfl : body = repo ++ [] := by
      have heq := rest_unique hrest' (.inl hrest)
      rw [hsplit] at heq
      exact (List.cons.inj (List.append_cancel_left heq)).2
    obtain ⟨-, tail, -, htail, hgit⟩ := of_lazyGroup hlazy
    exact hgit (.inl (List.append_cancel_left htail).symm)
  · intro h
    refine parseGithubUrl_of_httpsRest hrest howner.ne_nil howner.slash hrepo.slash ?_
    exact lazyGroup_append hrepo.ne_nil (by decide) (fun _ => getLast?_ne_slash hrepo.slash)
      (fun _ => h)

/-- An accepted source is contained exactly when its URL is spelled plainly. -/
theorem contained_addresses_iff {url owner repo ref' : Text} {ref : Option Text}
    (hurl : parseGithubUrl url = .ok (owner, repo)) (href : normaliseRef ref = .ok ref') :
    Contained owner repo ref' ↔ SpelledPlainly url := by
  obtain ⟨rest, body, hrest, hsplit, hlazy, hslash, -⟩ := of_parseGithubUrl hurl
  obtain ⟨hchars, hdots⟩ := of_normaliseRef href
  constructor
  · intro h
    obtain ⟨-, tail, htail, hbody, -⟩ := of_lazyGroup hlazy
    refine ⟨rest, owner, repo, tail, hrest, ?_, htail, h.owner_ordinary, h.repo_ordinary, ?_⟩
    · rw [hsplit, hbody]
    · exact (parseGithubUrl_canonicalUrl_iff h.owner_ordinary h.repo_ordinary).mp h.canonical
  · rintro ⟨rest', owner', repo', tail, hrest', hsplit', htail, howner, hrepo, hgit⟩
    -- what is parsed is what is spelled
    obtain ⟨rfl, rfl⟩ : owner = owner' ∧ repo = repo' := by
      have hlazy' := lazyGroup_append hrepo.ne_nil htail (fun _ => getLast?_ne_slash hrepo.slash)
        (fun _ => hgit)
      have hparts := partition_eq_some_iff.mpr ⟨hsplit, hslash⟩
      rw [rest_unique hrest hrest', partition_eq_some_iff.mpr ⟨hsplit', howner.slash⟩] at hparts
      cases hparts
      rw [hlazy] at hlazy'
      exact ⟨rfl, Option.some.inj hlazy'⟩
    exact {
      owner_ordinary := howner
      repo_ordinary := hrepo
      catalog := under_catalogRawUrl howner hrepo hchars hdots
      tarball := under_tarballUrl howner hrepo hchars hdots
      commits := under_commitsApiUrl howner hrepo
      canonical := (parseGithubUrl_canonicalUrl_iff howner hrepo).mpr hgit }

/-- A source whose URL is spelled plainly. -/
theorem contained_addresses_iff_plugins :
    Contained "you".toList "plugins".toList "main".toList ↔
      SpelledPlainly "https://github.com/you/plugins.git".toList :=
  have href : normaliseRef none = .ok "main".toList := by decide +kernel
  contained_addresses_iff (by decide +kernel) href

/-- An accepted URL whose repository goes up: the archive is fetched from outside. -/
theorem not_contained_dots :
    ¬ ∀ (url : Text) (ref : Option Text) (owner repo ref' : Text),
      parseGithubUrl url = .ok (owner, repo) → normaliseRef ref = .ok ref' →
        Contained owner repo ref' := by
  intro h
  have hdots := h "https://github.com/you/..".toList none "you".toList "..".toList "main".toList
    (by decide +kernel) (by decide +kernel)
  have hescapes : ¬ Under ["repos".toList, "you".toList, "..".toList]
      (tarballUrl "you".toList "..".toList "main".toList) := by
    unfold Under
    decide +kernel
  exact hescapes hdots.tarball

end Meshpoint.SourceUrls
