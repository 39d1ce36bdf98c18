import Wikitext.Proofs.NamespaceNames
import Wikitext.Proofs.Titles.RoundTrip

/-!
What stands in front of a page name. A namespace is found under every spelling of its names, and
colons in front of a text lead to the main namespace however they are spaced.
-/
namespace Wikitext
open Text

namespace Title

def afterColons (cs : List Char) : List Char := cs.dropWhile fun c => c == ':' || c == ' '

theorem afterColons_colon (cs : List Char) : afterColons (':' :: cs) = afterColons cs := rfl

theorem afterColons_spaceBefore (cs rest : List Char) :
    afterColons (spaceBefore cs ++ rest) = afterColons rest := by
  rw [spaceBefore]
  split <;> rfl

theorem afterColons_eq_self {cs : List Char} (normal : NormalName cs)
    (start : cs.head? ≠ some ':') : afterColons cs = cs := by
  cases cs with
  | nil => rfl
  | cons c cs =>
    have colon : c ≠ ':' := fun same => start (same ▸ rfl)
    have space : c ≠ ' ' := normal.start c rfl
    simp [afterColons, colon, space]

theorem parse_eq (site : Site) (text : String) (fallback : Int) :
    parse site text fallback = ofNormal site (afterColons (normalChars text.toList))
      (if (normalChars text.toList).head? = some ':' then mainNamespace else fallback) := by
  have normal := normalName_normalizeName text
  rw [toList_normalizeName_eq] at normal
  simp only [parse, toList_normalizeName_eq]
  split
  · rfl
  · rename_i start
    rw [afterColons_eq_self normal start]

def Colons (cs : List Char) : Prop := ∀ c ∈ cs, c = ':' ∨ isGap c = true

theorem afterColons_append {colons : List Char} (inside : Colons colons) (rest : List Char) :
    afterColons (normalChars (colons ++ rest)) = afterColons (normalChars rest) := by
  induction colons with
  | nil => rfl
  | cons c colons ih =>
    have later := ih fun other member => inside other (List.mem_cons_of_mem c member)
    rw [List.cons_append]
    rcases inside c List.mem_cons_self with rfl | gap
    · rw [normalChars_plain isGap_colon, afterColons_colon, afterColons_spaceBefore, later]
    · rw [normalChars_gap gap, later]

theorem head?_normalChars_colons {colons : List Char} (inside : Colons colons)
    (colon : ':' ∈ colons) (rest : List Char) :
    (normalChars (colons ++ rest)).head? = some ':' := by
  induction colons with
  | nil => exact absurd colon List.not_mem_nil
  | cons c colons ih =>
    rw [List.cons_append]
    rcases inside c List.mem_cons_self with rfl | gap
    · rw [normalChars_plain isGap_colon, List.head?_cons]
    · rw [normalChars_gap gap]
      apply ih fun other member => inside other (List.mem_cons_of_mem c member)
      rcases List.mem_cons.mp colon with rfl | later
      · exact absurd gap (by decide)
      · exact later

theorem parse_colons {colons : String} (inside : Colons colons.toList)
    (colon : ':' ∈ colons.toList) (site : Site) (text : String) (fallback : Int) :
    parse site (colons ++ text) fallback = parse site text mainNamespace := by
  rw [parse_eq, parse_eq, String.toList_append, afterColons_append inside,
    if_pos (head?_normalChars_colons inside colon _), ite_self]

theorem parse_normalizeName (site : Site) (text : String) (fallback : Int) :
    parse site (normalizeName text) fallback = parse site text fallback := by
  simp only [parse, normalizeName_normalizeName]

theorem parse_after_colon {text : String} {rest : List Char}
    (start : (normalizeName text).toList = ':' :: rest) (site : Site) (fallback : Int) :
    rest.length < text.toList.length ∧
      parse site text fallback = parse site (String.ofList rest) mainNamespace := by
  constructor
  · have bound := length_normalChars_le text.toList
    rw [← toList_normalizeName_eq, start, List.length_cons] at bound
    omega
  · have whole : normalizeName text = ":" ++ String.ofList rest := by
      apply String.ext
      simp [start, String.toList_append]
    rw [← parse_normalizeName, whole, parse_colons]
    · simp [Colons]
    · simp

end Title

theorem exists_front {spelling : String} (noColon : ':' ∉ spelling.toList) (page : String) :
    ∃ before, (normalizeName (spelling ++ ":" ++ page)).toList =
        before ++ ':' :: (spaceBefore page.toList ++ normalChars page.toList) ∧
      ':' ∉ before ∧ '_' ∉ before ∧
      foldName (String.ofList before) = foldName (normalizeName spelling) := by
  obtain ⟨space, kind, whole⟩ := normalChars_mark isGap_colon spelling.toList page.toList
  have inside : ∀ c ∈ (normalizeName spelling).toList ++ space,
      c = ' ' ∨ c ∈ (normalizeName spelling).toList := by
    intro c found
    rcases List.mem_append.mp found with early | late
    · exact .inr early
    · rcases kind with none | ⟨one, _⟩
      · exact absurd (none ▸ late) List.not_mem_nil
      · exact .inl (List.mem_singleton.mp (one ▸ late))
  refine ⟨(normalizeName spelling).toList ++ space, ?text, ?colon, ?underscore, ?folded⟩
  case text =>
    rw [toList_normalizeName_eq, toList_normalizeName_eq, List.append_assoc, ← whole]
    simp
  case colon =>
    intro colon
    have early := (inside ':' colon).resolve_left (by decide)
    exact noColon ((mem_normalizeName early).resolve_left (by decide))
  case underscore =>
    intro mark
    have early := (inside '_' mark).resolve_left (by decide)
    exact (normalName_normalizeName spelling).noUnderscore early
  case folded =>
    rcases kind with none | ⟨one, _⟩
    · rw [none, List.append_nil, String.ofList_toList]
    · rw [one, foldName_concat (by decide : isBlank ' ' = true), String.ofList_toList]

namespace Title
variable {description : SiteDescription} {site : Site}

theorem inNamespace_spaced (site : Site) (id : Int) (page : String) :
    inNamespace site id (String.ofList (spaceBefore page.toList ++ normalChars page.toList)) =
      inNamespace site id page := by
  have same : normalizeName (String.ofList (spaceBefore page.toList ++ normalChars page.toList)) =
      normalizeName page := by
    apply String.ext
    rw [toList_normalizeName_eq, toList_normalizeName_eq, String.toList_ofList,
      normalChars_spaced]
  exact inNamespace_congr (congrArg (capital site id) same)

theorem parse_spelling (loaded : description.site = .ok site) {ns : Namespace}
    (member : ns ∈ site.namespaces) {name spelling : String} (own : name ∈ ns.names)
    (noColon : ':' ∉ spelling.toList) (some : foldName (normalizeName spelling) ≠ "")
    (same : foldName (normalizeName spelling) = foldName name) (page : String) (fallback : Int) :
    parse site (spelling ++ ":" ++ page) fallback = inNamespace site ns.id page := by
  have normal := normalName_normalizeName (spelling ++ ":" ++ page)
  obtain ⟨before, text, absent, noUnderscore, folded⟩ := exists_front noColon page
  rw [← folded] at some same
  have found : site.namespaceNamed? (String.ofList before) = Option.some ns := by
    apply SiteDescription.namespaceNamed?_of_declares loaded member
    · exact trim_ne_of_foldName some
    · exact ⟨name, own, same.symm⟩
  have start : (normalizeName (spelling ++ ":" ++ page)).toList.head? ≠ Option.some ':' := by
    intro colon
    rw [text, List.head?_append_of_ne_nil] at colon
    · exact absent (List.mem_of_mem_head? colon)
    · rintro rfl
      exact some rfl
  rw [← parse_normalizeName, parse_of_normal normal start, text]
  simp only [ofNormal, cutFirst_append absent, found]
  exact inNamespace_spaced site ns.id page

/-- On a loaded site a text with a namespace in front names a page of it, in whatever case the
namespace is written and however it is spaced. Spaced colons in front of a text lead to the main
namespace: the first of them is passed over and what follows is a shorter text. -/
theorem parse_prefixed (loaded : description.site = .ok site) :
    (∀ fallback, ∀ ns ∈ site.namespaces, ∀ name ∈ ns.names, ∀ spelling,
      ':' ∉ spelling.toList → foldName (normalizeName spelling) ≠ "" →
      foldName (normalizeName spelling) = foldName name →
      ∀ page, parse site (spelling ++ ":" ++ page) fallback = inNamespace site ns.id page) ∧
    (∀ colons fallback text, Colons colons.toList → ':' ∈ colons.toList →
      parse site (colons ++ text) fallback = parse site text mainNamespace) ∧
    ∀ text fallback rest, (normalizeName text).toList = ':' :: rest →
      rest.length < text.toList.length ∧
        parse site text fallback = parse site (String.ofList rest) mainNamespace := by
  refine ⟨?spelling, ?colons, ?first⟩
  case spelling =>
    intro fallback ns member name own spelling noColon some same page
    exact parse_spelling loaded member own noColon some same page fallback
  case colons =>
    intro colons fallback text inside colon
    exact parse_colons inside colon site text fallback
  case first =>
    intro text fallback rest start
    exact parse_after_colon start site fallback

theorem parse_prefixed_user_talk :
    standardDescription.site = .ok Site.standard ∧
      parse Site.standard "_ uSER__\ttalk _: a_b" 10 = inNamespace Site.standard 3 " a_b" ∧
      parse Site.standard " :_:a" 10 = parse Site.standard "a" mainNamespace ∧
      parse Site.standard "_: a" 10 = parse Site.standard " a" mainNamespace := by
  obtain ⟨spelled, spaced, first⟩ := parse_prefixed standard_loaded
  have listed : subpageNamespace 3 "User talk" ∈ Site.standard.namespaces := by decide +kernel
  have folded : foldName (normalizeName "_ uSER__\ttalk _") = foldName "User talk" := by
    decide +kernel
  have some : foldName (normalizeName "_ uSER__\ttalk _") ≠ "" := by decide +kernel
  refine ⟨standard_loaded, ?_, ?_, ?_⟩
  · exact spelled 10 _ listed "User talk" (by simp [subpageNamespace, Namespace.names])
      "_ uSER__\ttalk _" (by simp) some folded " a_b"
  · exact spaced " :_:" 10 "a" (by simp [Colons, isGap, isBlank]) (by simp)
  · exact (first "_: a" 10 [' ', 'a'] (by decide +kernel)).2

end Title

end Wikitext
