/-
Reading the `Link` header back. A link is `<target>; rel="relation"`, the target running up to the next `>`,
and links stand with commas between them. The header is written by joining texts, and nothing in them is
escaped: it reads back as the links it was written for exactly when no target has a `>` of its own.

A target is the address of a list and the query string of a page. The numbers of a page and the standard names
of its parameters have no `>`, so what counts is the address, and of this the host, which the client chooses.
-/
import SensorRegistry.Api.Endpoint
import SensorRegistry.Proofs.Number.Integer
import SensorRegistry.Proofs.QueryString

namespace SensorRegistry

theorem Text.cut_eq_some_iff {c : Char} {s before after : Text} :
    cut c s = some (before, after) ↔ c ∉ before ∧ s = before ++ c :: after := by
  constructor
  · intro h
    induction s generalizing before with
    | nil => cases h
    | cons d s ih =>
      rw [cut] at h
      split_ifs at h with hd
      · cases h
        exact ⟨List.not_mem_nil, by rw [hd]; rfl⟩
      · obtain ⟨⟨x, y⟩, hcut, hxy⟩ := Option.map_eq_some_iff.1 h
        cases hxy
        obtain ⟨hmem, rfl⟩ := ih hcut
        exact ⟨List.not_mem_cons_of_ne_of_not_mem (Ne.symm hd) hmem, rfl⟩
  · rintro ⟨hc, rfl⟩
    exact QueryString.cut_append hc after

/-! ## The reader -/

/-- A link as a reader of the header sees it. -/
structure HeaderLink where
  target : Text
  relation : Text
  deriving DecidableEq

namespace HeaderLink

def text (link : HeaderLink) : Text :=
  '<' :: link.target ++ ">; rel=\"".toList ++ link.relation ++ ['"']

/-- Reads the link at the front, and gives what follows it. -/
def read? (s : Text) : Option (HeaderLink × Text) := do
  let (target, s) ← Text.cut '>' (← "<".toList.isPrefixOf? s)
  let (relation, s) ← Text.cut '"' (← "; rel=\"".toList.isPrefixOf? s)
  return (⟨target, relation⟩, s)

theorem read?_eq_some_iff {s rest : Text} {link : HeaderLink} :
    read? s = some (link, rest) ↔ '>' ∉ link.target ∧ '"' ∉ link.relation ∧ s = link.text ++ rest := by
  simp only [read?, Option.bind_eq_bind, Option.bind_eq_some_iff, List.isPrefixOf?_eq_some_iff_append_eq, Prod.exists,
    Text.cut_eq_some_iff, Option.pure_def, Option.some.injEq, Prod.mk.injEq]
  constructor
  · rintro ⟨x, rfl, target, s, ⟨htarget, rfl⟩, y, rfl, relation, s, ⟨hrelation, rfl⟩, rfl, rfl⟩
    exact ⟨htarget, hrelation, by simp [text]⟩
  · rintro ⟨htarget, hrelation, rfl⟩
    exact ⟨_, rfl, link.target, _, ⟨htarget, by simp⟩, _, rfl, link.relation, rest, ⟨hrelation, rfl⟩, rfl, rfl⟩

theorem length_lt_of_read? {s rest : Text} {link : HeaderLink} (h : read? s = some (link, rest)) :
    rest.length < s.length := by
  rw [(read?_eq_some_iff.1 h).2.2]
  simp [text]
  omega

/-- Reads a header: links with commas between them. -/
def readAll? (s : Text) : Option (List HeaderLink) :=
  match _h : read? s with
  | some (link, ',' :: rest) => (readAll? rest).map (link :: ·)
  | some (link, []) => some [link]
  | _ => none
termination_by s.length
decreasing_by
  have hlt := length_lt_of_read? ‹read? s = _›
  exact Nat.lt_of_succ_lt hlt

/-! ## Reading back -/

/-- No target that is read has a `>`. -/
theorem not_mem_target {s : Text} {links : List HeaderLink} (h : readAll? s = some links) :
    ∀ link ∈ links, '>' ∉ link.target := by
  fun_induction readAll? s generalizing links with
  | case1 s link rest hread ih =>
    obtain ⟨tail, htail, rfl⟩ := Option.map_eq_some_iff.1 h
    exact List.forall_mem_cons.2 ⟨(read?_eq_some_iff.1 hread).1, ih htail⟩
  | case2 s link hread =>
    cases h
    exact List.forall_mem_singleton.2 (read?_eq_some_iff.1 hread).1
  | case3 => cases h

theorem readAll?_join {links : List HeaderLink} (hne : links ≠ [])
    (h : ∀ link ∈ links, '>' ∉ link.target ∧ '"' ∉ link.relation) :
    readAll? (Text.join "," (links.map text)) = some links := by
  induction links with
  | nil => exact absurd rfl hne
  | cons link links ih =>
    obtain ⟨⟨htarget, hrelation⟩, htail⟩ := List.forall_mem_cons.1 h
    cases links with
    | nil =>
      have hread : read? (Text.join "," ([link].map text)) = some (link, []) :=
        read?_eq_some_iff.2 ⟨htarget, hrelation, by rw [List.map_singleton, Text.join_singleton, List.append_nil]⟩
      rw [readAll?, hread]
    | cons next links =>
      have hread : read? (Text.join "," ((link :: next :: links).map text)) =
          some (link, ',' :: Text.join "," ((next :: links).map text)) :=
        read?_eq_some_iff.2 ⟨htarget, hrelation, by simp [Text.join_cons]⟩
      rw [readAll?, hread]
      simp only [ih (List.cons_ne_nil _ _) htail, Option.map_some]

/-- Links that are written one after the other read back exactly when no target has a `>`. -/
theorem readAll?_join_iff {links : List HeaderLink} (hne : links ≠ []) (h : ∀ link ∈ links, '"' ∉ link.relation) :
    readAll? (Text.join "," (links.map text)) = some links ↔ ∀ link ∈ links, '>' ∉ link.target :=
  ⟨not_mem_target, fun htargets => readAll?_join hne fun link hlink => ⟨htargets link hlink, h link hlink⟩⟩

end HeaderLink

/-! ## The header of a page -/

theorem Relation.not_mem_name (r : Relation) : '"' ∉ r.name := by
  cases r <;> decide

namespace PageOptions

/-- A link of a page as a reader should see it. -/
def headerLink (o : PageOptions) (base : Text) (link : PageLink) : HeaderLink :=
  ⟨base ++ '?' :: o.linkQuery link, link.relation.name⟩

theorem text_headerLink (o : PageOptions) (base : Text) (link : PageLink) :
    (o.headerLink base link).text = o.writeLink base link := by
  simp [headerLink, HeaderLink.text, writeLink]

theorem mem_target_iff (o : PageOptions) (base : Text) (link : PageLink) :
    '>' ∈ (o.headerLink base link).target ↔ '>' ∈ base ∨ '>' ∈ o.offsetName ∨ '>' ∈ o.limitName := by
  have hnumeral : ∀ n, '>' ∉ Text.ofInt n := fun n h => absurd (Text.isDigit_or_eq_of_mem_ofInt h) (by decide)
  simp [headerLink, linkQuery, hnumeral]

/-- The links that the header of a page is written for. -/
def headerLinks (o : PageOptions) (base : Text) (page : Page) : List HeaderLink :=
  if o.linkHeader then (links page).map (o.headerLink base) else []

theorem exists_of_mem_headerLinks {o : PageOptions} {base : Text} {page : Page} {link : HeaderLink}
    (h : link ∈ o.headerLinks base page) : ∃ l, link = o.headerLink base l := by
  unfold headerLinks at h
  split_ifs at h
  · obtain ⟨l, -, rfl⟩ := List.mem_map.1 h
    exact ⟨l, rfl⟩
  · cases h

theorem linkHeader?_eq (o : PageOptions) (base : Text) (page : Page) :
    o.linkHeader? base page =
      if o.headerLinks base page = [] then none
      else some (Text.join "," ((o.headerLinks base page).map HeaderLink.text)) := by
  have htext : HeaderLink.text ∘ o.headerLink base = o.writeLink base := funext (o.text_headerLink base)
  by_cases hon : o.linkHeader = true
  · by_cases hnil : links page = [] <;> simp [linkHeader?, headerLinks, hon, hnil, htext]
  · simp [linkHeader?, headerLinks, hon]

/-- The header of a page reads back as the links of the page exactly when neither its base nor a name has a `>`,
or there is no link at all. No header is no links. -/
theorem readAll?_linkHeader?_iff (o : PageOptions) (base : Text) (page : Page) :
    (o.linkHeader? base page).elim (some []) HeaderLink.readAll? = some (o.headerLinks base page) ↔
      o.headerLinks base page = [] ∨ '>' ∉ base ∧ '>' ∉ o.offsetName ∧ '>' ∉ o.limitName := by
  rw [linkHeader?_eq]
  by_cases hnil : o.headerLinks base page = []
  · simp [hnil]
  · have hrelation : ∀ link ∈ o.headerLinks base page, '"' ∉ link.relation := by
      intro link hlink
      obtain ⟨l, rfl⟩ := exists_of_mem_headerLinks hlink
      exact l.relation.not_mem_name
    have htarget : ∀ link ∈ o.headerLinks base page,
        ('>' ∉ link.target ↔ '>' ∉ base ∧ '>' ∉ o.offsetName ∧ '>' ∉ o.limitName) := by
      intro link hlink
      obtain ⟨l, rfl⟩ := exists_of_mem_headerLinks hlink
      rw [mem_target_iff, not_or, not_or]
    rw [if_neg hnil, Option.elim_some, HeaderLink.readAll?_join_iff hnil hrelation, or_iff_right hnil]
    constructor
    · intro h
      obtain ⟨first, hfirst⟩ := List.exists_mem_of_ne_nil _ hnil
      exact (htarget first hfirst).1 (h first hfirst)
    · exact fun h link hlink => (htarget link hlink).2 h

end PageOptions

/-! ## The header of a list -/

namespace ListEndpoint

/-- The header that a list with the standard names writes for a request reads back as its links exactly when there
are none, or neither the scheme nor the host of their address has a `>`. -/
theorem linkHeader_reads_back_iff (e : ListEndpoint) (hoffset : e.paging.offsetName = "offset".toList)
    (hlimit : e.paging.limitName = "limit".toList) (r : ListRequest) (hpath : '>' ∉ r.path) (page : Page) :
    (e.paging.linkHeader? (e.baseUrl r) page).elim (some []) HeaderLink.readAll? =
        some (e.paging.headerLinks (e.baseUrl r) page) ↔
      e.paging.headerLinks (e.baseUrl r) page = [] ∨ ∀ host ∈ r.host, '>' ∉ e.scheme ∧ '>' ∉ host := by
  have hnames : '>' ∉ e.paging.offsetName ∧ '>' ∉ e.paging.limitName := by
    rw [hoffset, hlimit]
    decide
  have hbase : '>' ∉ e.baseUrl r ↔ ∀ host ∈ r.host, '>' ∉ e.scheme ∧ '>' ∉ host := by
    unfold baseUrl
    cases r.host with
    | none => simp [hpath]
    | some host => simp [hpath]
  rw [PageOptions.readAll?_linkHeader?_iff, hbase]
  simp only [hnames, and_true, not_false_eq_true]

/-- For a host with a `>` the first page of a list of unknown length has a link, and its header reads as something
else. -/
theorem linkHeader_reads_back_iff_bracket :
    let e : ListEndpoint := ⟨.empty, .standard, "http".toList⟩
    let r : ListRequest := ⟨"GET".toList, some "a>b".toList, "/sensors".toList, none⟩
    e.paging.offsetName = "offset".toList ∧ e.paging.limitName = "limit".toList ∧ '>' ∉ r.path ∧
      (e.paging.linkHeader? (e.baseUrl r) ⟨0, 20, 0⟩).elim (some []) HeaderLink.readAll? ≠
        some (e.paging.headerLinks (e.baseUrl r) ⟨0, 20, 0⟩) := by
  intro e r
  have hpath : '>' ∉ r.path := by decide
  refine ⟨rfl, rfl, hpath, fun hread => ?_⟩
  rcases (linkHeader_reads_back_iff e rfl rfl r hpath ⟨0, 20, 0⟩).1 hread with hnone | hhost
  · exact absurd hnone (by decide)
  · exact absurd (hhost "a>b".toList rfl).2 (by decide)

end ListEndpoint

end SensorRegistry
