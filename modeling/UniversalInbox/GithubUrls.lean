import UniversalInbox.Library.UrlPath
import UniversalInbox.Library.I64

/-! The page of GitHub that belongs to a resource of its API: the path is rewritten as a text, where
another function takes it apart. -/
namespace UniversalInbox.GithubUrls
open Texts UrlPath

inductive Host where
  | domain (name : String)
  | ipv4 (address : UInt32)
  | ipv6 (address : Nat)
deriving DecidableEq

/-- A URL with a special scheme, such as `https`. -/
structure Url where
  scheme : String
  username : String
  password : Option String
  host : Host
  port : Option UInt16
  path : List Segment
  query : Option String
  fragment : Option String
deriving DecidableEq

def Url.setPath (url : Url) (text : List Char) : Url := { url with path := parsePath text }

def repos : Segment := ⟨['r', 'e', 'p', 'o', 's'], List.all_eq_true.mp rfl, rfl, rfl⟩

def pulls : Segment := ⟨['p', 'u', 'l', 'l', 's'], List.all_eq_true.mp rfl, rfl, rfl⟩

def pull : Segment := ⟨['p', 'u', 'l', 'l'], List.all_eq_true.mp rfl, rfl, rfl⟩

def issues : Segment := ⟨['i', 's', 's', 'u', 'e', 's'], List.all_eq_true.mp rfl, rfl, rfl⟩

def discussions : Segment :=
  ⟨['d', 'i', 's', 'c', 'u', 's', 's', 'i', 'o', 'n', 's'], List.all_eq_true.mp rfl, rfl, rfl⟩

def actions : Segment := ⟨['a', 'c', 't', 'i', 'o', 'n', 's'], List.all_eq_true.mp rfl, rfl, rfl⟩

/-- Pull requests have a different URL. -/
def htmlPath (apiPath : List Char) : List Char :=
  replace ('/' :: (pulls.text ++ ['/'])) ('/' :: (pull.text ++ ['/']))
    (trimStartMatches ('/' :: repos.text) apiPath)

def getHtmlUrlFromApiUrl (apiUrl : Option Url) : Option Url :=
  apiUrl.bind fun url =>
    if url.host = .domain "api.github.com" ∧ '/' :: repos.text <+: pathText url.path then
      some (({ url with host := .domain "github.com" } : Url).setPath (htmlPath (pathText url.path)))
    else none

def getHtmlUrlFromMetadata (subjectType : String) (subjectUrl : Option Url)
    (repositoryHtmlUrl : Url) : Url :=
  if subjectType = "CheckSuite" then
    repositoryHtmlUrl.setPath (pathText repositoryHtmlUrl.path ++ '/' :: actions.text)
  else (getHtmlUrlFromApiUrl subjectUrl).getD repositoryHtmlUrl

inductive GithubUrl where
  | pullRequest (owner repository : List Char) (number : I64)
  | discussion (owner repository : List Char) (number : I64)
deriving DecidableEq

inductive ResourceUrlError where
  | otherHost (found : Host)
  | pullRequestNumberNotAnInteger (number : List Char)
  | discussionNumberNotAnInteger (number : List Char)
  | unknownResourceType (resourceUrl : Url)
deriving DecidableEq

def GithubUrl.tryFromApiUrl (resourceUrl : Url) : Except ResourceUrlError GithubUrl :=
  if resourceUrl.host ≠ .domain "api.github.com" then .error (.otherHost resourceUrl.host)
  else
    match (pathText resourceUrl.path).splitOn '/' with
    | [root, top, owner, repository, resource, number] =>
      if root = [] ∧ top = repos.text ∧ resource = pulls.text then
        match I64.parse number with
        | some n => .ok (.pullRequest owner repository n)
        | none => .error (.pullRequestNumberNotAnInteger number)
      else if root = [] ∧ top = repos.text ∧ resource = discussions.text then
        match I64.parse number with
        | some n => .ok (.discussion owner repository n)
        | none => .error (.discussionNumberNotAnInteger number)
      else .error (.unknownResourceType resourceUrl)
    | _ => .error (.unknownResourceType resourceUrl)

/-- What has a number in a repository. -/
inductive Resource where
  | pullRequest
  | issue
  | discussion
deriving DecidableEq

def Resource.apiName : Resource → Segment
  | .pullRequest => pulls
  | .issue => issues
  | .discussion => discussions

def Resource.htmlName : Resource → Segment
  | .pullRequest => pull
  | .issue => issues
  | .discussion => discussions

def urlOf (host : String) (path : List Segment) : Url where
  scheme := "https"
  username := ""
  password := none
  host := .domain host
  port := none
  path := path
  query := none
  fragment := none

def apiUrl (owner repository : Segment) (resource : Resource) (number : Segment) : Url :=
  urlOf "api.github.com" [repos, owner, repository, resource.apiName, number]

def htmlUrl (owner repository : Segment) (resource : Resource) (number : Segment) : Url :=
  urlOf "github.com" [owner, repository, resource.htmlName, number]

def GithubUrl.owner : GithubUrl → List Char
  | .pullRequest owner _ _ => owner
  | .discussion owner _ _ => owner

def GithubUrl.repository : GithubUrl → List Char
  | .pullRequest _ repository _ => repository
  | .discussion _ repository _ => repository

def GithubUrl.number : GithubUrl → I64
  | .pullRequest _ _ number => number
  | .discussion _ _ number => number

def GithubUrl.resource : GithubUrl → Resource
  | .pullRequest .. => .pullRequest
  | .discussion .. => .discussion

/-- A page of GitHub that is about the same thing. -/
def GithubUrl.IsPage (url : GithubUrl) (page : Url) : Prop :=
  page.host = .domain "github.com" ∧ ∃ number, I64.parse number = some url.number ∧
    page.path.map Segment.text = [url.owner, url.repository, url.resource.htmlName.text, number]

/-- None of the names is taken for a part of the path that is rewritten. -/
structure NotRewritten (owner repository : List Char) : Prop where
  kept : ¬ repos.text <+: owner
  owner : owner ≠ pulls.text
  repository : repository ≠ pulls.text

section Rewriting
variable {owner repository resource number : Segment} {texts : List (List Char)}

theorem plain_of_mem {segments : List Segment} {text : List Char}
    (h : text ∈ segments.map Segment.text) : ∀ c ∈ text, isPathChar c = true := by
  obtain ⟨segment, -, rfl⟩ := List.mem_map.mp h
  exact segment.plain

theorem slash_not_mem_pulls : '/' ∉ pulls.text := slash_not_mem pulls.plain

theorem slash_not_mem_repos : '/' ∉ repos.text := slash_not_mem repos.plain

theorem replace_joined_texts (htexts : ∀ text ∈ texts, ∀ c ∈ text, isPathChar c = true) :
    replace ('/' :: (pulls.text ++ ['/'])) ('/' :: (pull.text ++ ['/'])) (joined texts) =
      joined (replaceSegments pulls.text pull.text texts) :=
  replace_joined slash_not_mem_pulls fun text htext => slash_not_mem (htexts text htext)

theorem plain_replaceSegments (htexts : ∀ text ∈ texts, ∀ c ∈ text, isPathChar c = true) :
    ∀ text ∈ replaceSegments pulls.text pull.text texts, ∀ c ∈ text, isPathChar c = true := by
  intro text htext
  rcases mem_replaceSegments htext with rfl | htext
  · exact pull.plain
  · exact htexts text htext

/-- What is replaced in segments is segments again. -/
theorem exists_segments (path : List Segment) : ∃ path' : List Segment,
    path'.map Segment.text = replaceSegments pulls.text pull.text (path.map Segment.text) := by
  have hmem : ∀ texts : List (List Char), (∀ text ∈ texts, ∃ segment : Segment, segment.text = text) →
      ∃ path' : List Segment, path'.map Segment.text = texts := by
    intro texts
    induction texts with
    | nil => exact fun _ => ⟨[], rfl⟩
    | cons text texts ih =>
      intro h
      obtain ⟨segment, hsegment⟩ := h text List.mem_cons_self
      obtain ⟨path', hpath'⟩ := ih fun t ht => h t (List.mem_cons_of_mem _ ht)
      exact ⟨segment :: path', by rw [List.map_cons, hsegment, hpath']⟩
  refine hmem _ fun text htext => ?_
  rcases mem_replaceSegments htext with rfl | htext
  · exact ⟨pull, rfl⟩
  · obtain ⟨segment, -, hsegment⟩ := List.mem_map.mp htext
    exact ⟨segment, hsegment⟩

theorem htmlPath_repos (path : List Segment) :
    htmlPath (pathText (repos :: path)) = htmlPath (pathText path) := by
  unfold htmlPath pathText
  rw [List.map_cons, joined_cons, trimStartMatches_append (List.cons_ne_nil _ _)]

/-- An owner that is not cut leaves all the segments to the replacement. -/
theorem parsePath_htmlPath {path : List Segment} (h : ¬ repos.text <+: owner.text) :
    (parsePath (htmlPath (pathText (owner :: path)))).map Segment.text =
      replaceSegments pulls.text pull.text ((owner :: path).map Segment.text) := by
  obtain ⟨path', hpath'⟩ := exists_segments (owner :: path)
  have htrim : trimStartMatches ('/' :: repos.text) (pathText (owner :: path)) =
      joined ((owner :: path).map Segment.text) :=
    trimStartMatches_of_other_start fun hprefix =>
      h ((cons_prefix_joined_iff slash_not_mem_repos).mp hprefix)
  have hne : path' ≠ [] := by
    rintro rfl
    have := congrArg List.length hpath'
    rw [length_replaceSegments] at this
    simp at this
  unfold htmlPath
  rw [htrim, replace_joined_texts fun text htext => plain_of_mem htext, ← hpath']
  exact congrArg (List.map Segment.text) (parsePath_pathText hne)

theorem htmlPath_of_begins {path : List Segment} {suffix : List Char}
    (howner : repos.text ++ suffix = owner.text) :
    htmlPath (pathText (owner :: path)) =
      replace ('/' :: (pulls.text ++ ['/'])) ('/' :: (pull.text ++ ['/']))
        (trimStartMatches ('/' :: repos.text) (suffix ++ joined (path.map Segment.text))) := by
  have hjoined : pathText (owner :: path) =
      '/' :: repos.text ++ (suffix ++ joined (path.map Segment.text)) := by
    unfold pathText
    rw [List.map_cons, joined_cons, ← howner, List.cons_append, List.cons_append,
      List.append_assoc]
  unfold htmlPath
  rw [hjoined, trimStartMatches_append (List.cons_ne_nil _ _)]

/-- Nothing is left of the owner. -/
theorem length_parsePath_trimmed_le {path : List Segment} (hne : path ≠ []) :
    (parsePath (replace ('/' :: (pulls.text ++ ['/'])) ('/' :: (pull.text ++ ['/']))
      (trimStartMatches ('/' :: repos.text) (joined (path.map Segment.text))))).length ≤
        path.length := by
  have hpath : ∀ text ∈ path.map Segment.text, ∀ c ∈ text, isPathChar c = true := fun text htext =>
    plain_of_mem htext
  rcases trimStartMatches_joined slash_not_mem_repos hpath with
    ⟨rest, hrest, hlength, hplain⟩ | ⟨text, rest, hrest, htext, hlength, hplain⟩
  · rw [hrest, replace_joined_texts hplain]
    refine le_trans length_parsePath_le ?_
    cases rest with
    | nil => exact List.length_pos_iff.mpr hne
    | cons text rest =>
      rw [pieces_joined _ (plain_replaceSegments hplain), length_replaceSegments]
      · rwa [List.length_map] at hlength
      · exact List.ne_nil_of_length_pos (by rw [length_replaceSegments]; exact Nat.succ_pos _)
  · have hplainRest : ∀ part ∈ rest, ∀ c ∈ part, isPathChar c = true := fun part hpart =>
      hplain part (List.mem_cons_of_mem _ hpart)
    have hplainText := hplain text List.mem_cons_self
    rw [hrest, replace_append_joined (slash_not_mem hplainText), replace_joined_texts hplainRest]
    refine le_trans length_parsePath_le ?_
    rw [pieces_append_joined htext hplainText (plain_replaceSegments hplainRest),
      List.length_cons, length_replaceSegments]
    rwa [List.length_map] at hlength

/-- What is left of the owner is read in front of as many segments as before. -/
theorem parsePath_suffix {path : List Segment} (hne : path ≠ []) {c : Char} {suffix : List Char}
    (hsuffix : ∀ d ∈ c :: suffix, isPathChar d = true) :
    ∃ path' : List Segment, path'.length = path.length ∧
      parsePath (replace ('/' :: (pulls.text ++ ['/'])) ('/' :: (pull.text ++ ['/']))
        (trimStartMatches ('/' :: repos.text) (c :: suffix ++ joined (path.map Segment.text)))) =
          addSegment false [] (c :: suffix) ++ path' := by
  have hpath : ∀ text ∈ path.map Segment.text, ∀ c ∈ text, isPathChar c = true := fun text htext =>
    plain_of_mem htext
  have hstops : ¬ '/' :: repos.text <+: c :: suffix ++ joined (path.map Segment.text) := by
    rw [List.cons_append, List.cons_prefix_cons]
    exact fun h => slash_not_mem hsuffix (h.1 ▸ List.mem_cons_self)
  obtain ⟨path', hpath'⟩ := exists_segments path
  have hlength : path'.length = path.length := by
    have := congrArg List.length hpath'
    rwa [length_replaceSegments, List.length_map, List.length_map] at this
  refine ⟨path', hlength, ?_⟩
  rw [trimStartMatches_of_other_start hstops, replace_append_joined (slash_not_mem hsuffix),
    replace_joined_texts hpath, ← hpath']
  unfold parsePath
  rw [pieces_append_joined (List.cons_ne_nil _ _) hsuffix fun text htext => plain_of_mem htext]
  cases path' with
  | nil => exact absurd (List.length_eq_zero_iff.mp hlength.symm) hne
  | cons segment path' => exact addSegments_texts _ (segment :: path')

/-- An owner that is cut is not the first segment any more, where there are as many as before. -/
theorem parsePath_htmlPath_of_prefix {path : List Segment} (hne : path ≠ [])
    (h : repos.text <+: owner.text) :
    (parsePath (htmlPath (pathText (owner :: path)))).length ≤ path.length ∨
      ∃ suffix rest, (parsePath (htmlPath (pathText (owner :: path)))).map Segment.text =
        suffix :: rest ∧ suffix.length < owner.text.length := by
  obtain ⟨suffix, howner⟩ := h
  rw [htmlPath_of_begins howner]
  cases suffix with
  | nil => exact .inl (length_parsePath_trimmed_le hne)
  | cons c suffix =>
    have hsuffix : ∀ d ∈ c :: suffix, isPathChar d = true := fun d hd =>
      owner.plain d (howner ▸ List.mem_append_right _ hd)
    obtain ⟨path', hlength, hparse⟩ := parsePath_suffix hne hsuffix
    rw [hparse]
    rcases addSegment_nil hsuffix with hdots | ⟨segment, htext, hsegment⟩
    · left
      rw [hdots, List.nil_append, hlength]
    · right
      refine ⟨c :: suffix, path'.map Segment.text, ?_, ?_⟩
      · rw [hsegment, List.singleton_append, List.map_cons, htext]
      · rw [← howner, List.length_append]
        exact Nat.lt_add_of_pos_left (by decide)

/-- The segments of the page. -/
theorem page_of_notRewritten (h : NotRewritten owner.text repository.text)
    (resource number : Segment) :
    parsePath (htmlPath (pathText [repos, owner, repository, resource, number])) =
      [owner, repository, if resource = pulls then pull else resource, number] := by
  apply List.map_injective_iff.mpr Segment.text_injective
  rw [htmlPath_repos, parsePath_htmlPath h.kept]
  simp only [List.map_cons, List.map_nil, replaceSegments, if_neg h.owner, if_neg h.repository]
  by_cases hresource : resource = pulls
  · rw [if_pos hresource, if_pos (congrArg Segment.text hresource)]
  · rw [if_neg hresource, if_neg fun h => hresource (Segment.text_injective h)]

theorem notRewritten_of_page {resource' number' : List Char}
    (h : (parsePath (htmlPath (pathText [repos, owner, repository, resource, number]))).map
      Segment.text = [owner.text, repository.text, resource', number']) :
    NotRewritten owner.text repository.text := by
  rw [htmlPath_repos] at h
  have hkept : ¬ repos.text <+: owner.text := by
    intro hprefix
    rcases parsePath_htmlPath_of_prefix (List.cons_ne_nil repository [resource, number]) hprefix with
      hlength | ⟨suffix, rest, hrest, hlength⟩
    · have := congrArg List.length h
      rw [List.length_map] at this
      simp only [List.length_cons, List.length_nil] at this hlength
      omega
    · rw [hrest, List.cons.injEq] at h
      exact Nat.lt_irrefl _ (h.1 ▸ hlength)
  rw [parsePath_htmlPath hkept] at h
  simp only [List.map_cons, List.map_nil, replaceSegments] at h
  have howner : owner.text ≠ pulls.text := by
    intro howner
    rw [if_pos howner, List.cons.injEq, howner] at h
    exact absurd h.1 (by decide)
  refine ⟨hkept, howner, fun hrepository => ?_⟩
  rw [if_neg howner, if_pos hrepository, List.cons.injEq, List.cons.injEq, hrepository] at h
  exact absurd h.2.1 (by decide)

theorem getHtmlUrlFromApiUrl_repos {url : Url} {path : List Segment}
    (hhost : url.host = .domain "api.github.com") (hpath : url.path = repos :: path) :
    getHtmlUrlFromApiUrl (some url) =
      some (({ url with host := .domain "github.com" } : Url).setPath
        (htmlPath (pathText (repos :: path)))) := by
  rw [getHtmlUrlFromApiUrl, Option.bind_some, hpath]
  refine if_pos ⟨hhost, ?_⟩
  exact (cons_prefix_joined_iff slash_not_mem_repos).mpr (List.prefix_refl _)

end Rewriting

section Resources

/-- The runs of a repository are one segment further. -/
theorem getHtmlUrlFromMetadata_checkSuite (subjectUrl : Option Url) (repositoryHtmlUrl : Url) :
    getHtmlUrlFromMetadata "CheckSuite" subjectUrl repositoryHtmlUrl =
      { repositoryHtmlUrl with path := repositoryHtmlUrl.path ++ [actions] } := by
  have htext : pathText repositoryHtmlUrl.path ++ '/' :: actions.text =
      pathText (repositoryHtmlUrl.path ++ [actions]) := by
    unfold pathText joined
    rw [List.map_append, List.flatMap_append]
    rfl
  rw [getHtmlUrlFromMetadata, if_pos rfl, Url.setPath, htext,
    parsePath_pathText (List.append_ne_nil_of_right_ne_nil _ (List.cons_ne_nil _ _))]

/-- What is parsed off a URL stands in its path. -/
theorem tryFromApiUrl_eq_ok {url : Url} {parsed : GithubUrl}
    (h : GithubUrl.tryFromApiUrl url = .ok parsed) :
    url.host = .domain "api.github.com" ∧ ∃ owner repository number : Segment,
      url.path = [repos, owner, repository, parsed.resource.apiName, number] ∧
        parsed.owner = owner.text ∧ parsed.repository = repository.text ∧
          I64.parse number.text = some parsed.number := by
  unfold GithubUrl.tryFromApiUrl at h
  rw [splitOn_pathText] at h
  split at h
  · cases h
  · next hhost =>
    refine ⟨not_not.mp hhost, ?_⟩
    split at h
    · next root top owner repository resource number hparts =>
      rw [List.cons.injEq] at hparts
      obtain ⟨rfl, hparts⟩ := hparts
      simp only [List.map_eq_cons_iff, List.map_eq_nil_iff] at hparts
      obtain ⟨first, _, hpath, rfl, second, _, rfl, rfl, third, _, rfl, rfl, fourth, _, rfl, rfl,
        fifth, _, rfl, rfl, rfl⟩ := hparts
      rw [hpath]
      split at h
      · next hpull =>
        obtain ⟨-, hfirst, hfourth⟩ := hpull
        rw [Segment.text_injective hfirst, Segment.text_injective hfourth]
        split at h
        · next n hn =>
          cases h
          exact ⟨second, third, fifth, rfl, rfl, rfl, hn⟩
        · cases h
      · split at h
        · next hdiscussion =>
          obtain ⟨-, hfirst, hfourth⟩ := hdiscussion
          rw [Segment.text_injective hfirst, Segment.text_injective hfourth]
          split at h
          · next n hn =>
            cases h
            exact ⟨second, third, fifth, rfl, rfl, rfl, hn⟩
          · cases h
        · cases h
    · cases h

/-- The page of a resource is right unless a name of its repository is rewritten, whether the URL is
written down or parsed. -/
theorem getHtmlUrlFromApiUrl_iff (owner repository : Segment) (resource : Resource)
    (number : Segment) :
    (getHtmlUrlFromApiUrl (some (apiUrl owner repository resource number)) =
          some (htmlUrl owner repository resource number) ↔
        NotRewritten owner.text repository.text) ∧
      ∀ url parsed, GithubUrl.tryFromApiUrl url = .ok parsed →
        ((∃ page, getHtmlUrlFromApiUrl (some url) = some page ∧ parsed.IsPage page) ↔
          NotRewritten parsed.owner parsed.repository) := by
  constructor
  · have hhost : (apiUrl owner repository resource number).host = .domain "api.github.com" := rfl
    rw [getHtmlUrlFromApiUrl_repos hhost rfl, Option.some.injEq]
    constructor
    · intro hpage
      exact notRewritten_of_page (congrArg (fun page : Url => page.path.map Segment.text) hpage)
    · intro h
      rw [Url.setPath, page_of_notRewritten h]
      cases resource <;> rfl
  · intro url parsed hparsed
    obtain ⟨hhost, owner, repository, number, hpath, howner, hrepository, hnumber⟩ :=
      tryFromApiUrl_eq_ok hparsed
    rw [getHtmlUrlFromApiUrl_repos hhost hpath, howner, hrepository]
    constructor
    · rintro ⟨page, hpage, -, number', -, hnames⟩
      cases hpage
      rw [howner, hrepository] at hnames
      exact notRewritten_of_page hnames
    · intro h
      refine ⟨_, rfl, rfl, number.text, hnumber, ?_⟩
      rw [Url.setPath, page_of_notRewritten h, howner, hrepository]
      cases parsed <;> rfl

def octokit : Segment := ⟨['o', 'c', 't', 'o', 'k', 'i', 't'], List.all_eq_true.mp rfl, rfl, rfl⟩

def reposense : Segment :=
  ⟨['r', 'e', 'p', 'o', 's', 'e', 'n', 's', 'e'], List.all_eq_true.mp rfl, rfl, rfl⟩

def one : Segment := ⟨['1'], List.all_eq_true.mp rfl, rfl, rfl⟩

theorem getHtmlUrlFromApiUrl_octokit :
    (∃ page, getHtmlUrlFromApiUrl (some (apiUrl octokit octokit .pullRequest one)) = some page ∧
        (GithubUrl.pullRequest octokit.text octokit.text ⟨1, by decide⟩).IsPage page) ↔
      NotRewritten octokit.text octokit.text :=
  (getHtmlUrlFromApiUrl_iff octokit octokit .pullRequest one).2
    (apiUrl octokit octokit .pullRequest one) _ rfl

/-- An owner whose name begins like the API's path, and a repository that is named like its
resources. -/
theorem names_rewritten :
    getHtmlUrlFromApiUrl (some (apiUrl reposense octokit .pullRequest one)) ≠
        some (htmlUrl reposense octokit .pullRequest one) ∧
      getHtmlUrlFromApiUrl (some (apiUrl octokit pulls .issue one)) ≠
        some (htmlUrl octokit pulls .issue one) := by
  decide

end Resources

end UniversalInbox.GithubUrls
