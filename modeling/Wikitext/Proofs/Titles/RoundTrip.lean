import Wikitext.Proofs.Namespaces
import Wikitext.Proofs.Titles.Normal

/-!
Full titles as text. The full name of a title leads back to the title, unless the title is in the
main namespace and its page name, in the form with a capital letter, starts with the name of another
namespace.
-/
namespace Wikitext
open Text

theorem NormalName.suffix {cs rest : List Char} (normal : NormalName cs) (tail : rest <:+ cs)
    (start : ∀ c ∈ rest.head?, c ≠ ' ') : NormalName rest where
  noUnderscore member := normal.noUnderscore (tail.subset member)
  blank c member := normal.blank c (tail.subset member)
  single := normal.single.suffix tail
  start := start
  stop := by
    intro c found
    obtain ⟨front, rfl⟩ := tail
    apply normal.stop c
    rw [List.getLast?_append]
    simp only [Option.mem_def] at found
    simp [found]

/-- A site on which full titles can be told apart: the main namespace has the empty name and is
found under no other, and each of the others has a normal name without a colon under which it is
found. -/
structure Site.Plain (site : Site) : Prop where
  main : ∃ ns, site.namespace? mainNamespace = some ns ∧ ns.name = ""
  named : ∀ id ns, site.namespace? id = some ns → id ≠ mainNamespace →
    ns.name ≠ "" ∧ NormalName ns.name.toList ∧ ':' ∉ ns.name.toList ∧
      site.namespaceNamed? ns.name = some ns
  unnamed : ∀ name ns, '_' ∉ name.toList → site.namespaceNamed? name = some ns →
    ns.id ≠ mainNamespace

namespace Title

def prefix? (site : Site) (text : List Char) : Option Namespace :=
  (cutFirst ':' text).bind fun cut => site.namespaceNamed? (String.ofList cut.1)

variable {site : Site}

theorem ofNormal_unnamed {text : List Char} (none : prefix? site text = none) (fallback : Int) :
    ofNormal site text fallback = inNamespace site fallback (String.ofList text) := by
  unfold prefix? at none
  unfold ofNormal
  cases cut : cutFirst ':' text with
  | none => rfl
  | some parts =>
    rw [cut, Option.bind_some] at none
    simp only [none]

theorem ofNormal_named {text : List Char} {ns : Namespace} (named : prefix? site text = some ns)
    (fallback : Int) : ∃ name, ofNormal site text fallback = inNamespace site ns.id name := by
  obtain ⟨parts, cut, found⟩ := Option.bind_eq_some_iff.mp named
  refine ⟨String.ofList parts.2, ?_⟩
  simp only [ofNormal, cut, found]

theorem parse_of_normal {text : String} (normal : NormalName text.toList)
    (start : text.toList.head? ≠ some ':') (site : Site) (fallback : Int) :
    parse site text fallback = ofNormal site text.toList fallback := by
  simp only [parse, normalizeName_eq_self normal, if_neg start]

/-- A normal text names a page of the namespace whose name it starts with, or of the one it is
looked for in. -/
theorem ofNormal_cases (site : Site) {text : List Char} (normal : NormalName text)
    (fallback : Int) :
    (∃ name ns page, '_' ∉ name.toList ∧ site.namespaceNamed? name = some ns ∧
      ofNormal site text fallback = inNamespace site ns.id page) ∨
    ofNormal site text fallback = inNamespace site fallback (String.ofList text) := by
  cases named : prefix? site text with
  | none => exact .inr (ofNormal_unnamed named fallback)
  | some ns =>
    obtain ⟨page, whole⟩ := ofNormal_named named fallback
    obtain ⟨parts, cut, found⟩ := Option.bind_eq_some_iff.mp named
    refine .inl ⟨String.ofList parts.1, ns, page, ?_, found, whole⟩
    rw [String.toList_ofList]
    intro member
    apply normal.noUnderscore
    rw [cutFirst_eq cut]
    exact List.mem_append_left _ member

theorem head?_dropWhile_colons {cs : List Char} {c : Char}
    (found : c ∈ (cs.dropWhile fun c => c == ':' || c == ' ').head?) : c ≠ ':' ∧ c ≠ ' ' := by
  have stop := List.head?_dropWhile_not (fun c => c == ':' || c == ' ') cs
  rw [Option.mem_def.mp found] at stop
  simpa using stop

theorem exists_ofNormal (site : Site) (text : String) (fallback : Int) :
    ∃ rest id, NormalName rest ∧ rest.head? ≠ some ':' ∧ (id = fallback ∨ id = mainNamespace) ∧
      parse site text fallback = ofNormal site rest id := by
  have normal := normalName_normalizeName text
  unfold parse
  generalize (normalizeName text).toList = cs at normal
  by_cases colon : cs.head? = some ':'
  · have kept := normal.suffix (List.dropWhile_suffix fun c => c == ':' || c == ' ') fun c found =>
      (head?_dropWhile_colons found).2
    exact ⟨_, mainNamespace, kept, fun start => (head?_dropWhile_colons start).1 rfl, .inr rfl,
      if_pos colon⟩
  · exact ⟨cs, fallback, normal, colon, .inl rfl, if_neg colon⟩

theorem toList_fullName_named {title : Title} (named : title.namespaceName ≠ "") :
    title.fullName.toList = title.namespaceName.toList ++ ':' :: title.page.toList := by
  rw [fullName, if_neg named, String.toList_append, String.toList_append, List.append_assoc]
  rfl

variable {id : Int} {ns : Namespace}

theorem parse_fullName_named (plain : site.Plain) (found : site.namespace? id = some ns)
    (other : id ≠ mainNamespace) (name : String) (fallback : Int) :
    parse site (inNamespace site id name).fullName fallback = inNamespace site id name := by
  obtain ⟨some, normal, noColon, leads⟩ := plain.named id ns found other
  have whole := inNamespace_some found name
  have page := normalName_page site id name
  have text : (inNamespace site id name).fullName.toList =
      ns.name.toList ++ ':' :: (inNamespace site id name).page.toList := by
    rw [toList_fullName_named] <;> rw [whole]
    exact some
  have joined : NormalName (inNamespace site id name).fullName.toList := by
    rw [text]
    exact normal.join page (by decide) (fun blank => absurd blank (by decide))
      fun space => absurd space (by decide)
  have start : (inNamespace site id name).fullName.toList.head? ≠ Option.some ':' := by
    rw [text]
    cases front : ns.name.toList with
    | nil => exact absurd (String.toList_eq_nil_iff.mp front) some
    | cons c cs =>
      rw [List.cons_append, List.head?_cons]
      intro colon
      apply noColon
      rw [front, Option.some.inj colon]
      exact List.mem_cons_self
  rw [parse_of_normal joined start, text]
  simp only [ofNormal, cutFirst_append noColon, String.ofList_toList, leads]
  rw [Site.id_of_namespace? found, inNamespace_page]

theorem parse_fullName_main (plain : site.Plain) {name : String} (normal : NormalName name.toList)
    (start : name.toList.head? ≠ some ':') :
    parse site (inNamespace site mainNamespace name).fullName mainNamespace =
        inNamespace site mainNamespace name ↔
      prefix? site (inNamespace site mainNamespace name).page.toList = none := by
  obtain ⟨ns, found, empty⟩ := plain.main
  have text : (inNamespace site mainNamespace name).fullName =
      (inNamespace site mainNamespace name).page := by
    rw [fullName, if_pos]
    rw [inNamespace_some found, empty]
  have page := normalName_page site mainNamespace name
  have head : (inNamespace site mainNamespace name).page.toList.head? ≠ some ':' := by
    rw [page_inNamespace, normalizeName_eq_self normal]
    rcases capital_eq site mainNamespace name with same | upper
    · rwa [same]
    · rw [upper]
      exact head?_upperFirst start
  rw [text, parse_of_normal page head]
  cases named : prefix? site (inNamespace site mainNamespace name).page.toList with
  | none =>
    rw [ofNormal_unnamed named, String.ofList_toList, inNamespace_page]
    simp
  | some other =>
    obtain ⟨rest, whole⟩ := ofNormal_named named mainNamespace
    obtain ⟨parts, cut, leads⟩ := Option.bind_eq_some_iff.mp named
    have apart : other.id ≠ mainNamespace := by
      apply plain.unnamed _ other _ leads
      rw [String.toList_ofList]
      intro member
      apply page.noUnderscore
      rw [cutFirst_eq cut]
      exact List.mem_append_left _ member
    constructor
    · intro same
      rw [whole] at same
      have ids := congrArg namespaceId same
      rw [namespaceId_inNamespace, namespaceId_inNamespace] at ids
      exact absurd ids apart
    · intro none
      cases none

theorem parse_fullName (plain : site.Plain) (text : String) {fallback : Int}
    (defined : (site.namespace? fallback).isSome = true) :
    parse site (parse site text fallback).fullName mainNamespace = parse site text fallback ↔
      ¬((parse site text fallback).namespaceId = mainNamespace ∧
        (prefix? site (parse site text fallback).page.toList).isSome = true) := by
  obtain ⟨rest, id, normal, start, place, whole⟩ := exists_ofNormal site text fallback
  rw [whole]
  rcases ofNormal_cases site normal id with ⟨name, ns, page, noUnderscore, leads, named⟩ | unnamed
  · have other := plain.unnamed name ns noUnderscore leads
    rw [named, namespaceId_inNamespace]
    simp [parse_fullName_named plain (Site.namespace?_of_named leads) other, other]
  · rw [unnamed, namespaceId_inNamespace]
    by_cases main : id = mainNamespace
    · rw [main, parse_fullName_main plain] <;> simp [normal, start]
    · rw [← place.resolve_right main] at defined
      obtain ⟨ns, found⟩ := Option.isSome_iff_exists.mp defined
      simp [parse_fullName_named plain found main, main]

end Title

theorem standard_checks :
    (Site.standard.namespace? mainNamespace = some (plainNamespace 0 "")) ∧
    (∀ ns ∈ Site.standard.namespaces, ns.id ≠ mainNamespace → ns.name ≠ "" ∧
      normalizeName ns.name = ns.name ∧ ':' ∉ ns.name.toList ∧
      Site.standard.namespaceNamed? ns.name = some ns) ∧
    ∀ entry ∈ Site.standard.owners.entries, entry.2 = mainNamespace → entry.1 = "" := by
  decide +kernel

theorem standard_plain : Site.standard.Plain where
  main := ⟨plainNamespace 0 "", standard_checks.1, rfl⟩
  named := by
    intro id ns found other
    have member := Site.mem_of_namespace? found
    obtain ⟨some, normal, noColon, leads⟩ :=
      standard_checks.2.1 ns member (by rwa [Site.id_of_namespace? found])
    exact ⟨some, normal ▸ normalName_normalizeName ns.name, noColon, leads⟩
  unnamed := by
    intro name ns noUnderscore leads main
    unfold Site.namespaceNamed? at leads
    split at leads
    · cases leads
    · rename_i some
      obtain ⟨id, listed, found⟩ := Option.bind_eq_some_iff.mp leads
      have same : id = mainNamespace := (Site.id_of_namespace? found).symm.trans main
      have entry := Bindings.mem_of_find? listed
      have empty := standard_checks.2.2 _ entry same
      rw [foldName, underscoresToSpaces_eq_self noUnderscore] at empty
      exact some (lower_eq_empty empty)

/-- On the standard site a full name leads back to its title, unless the title is in the main
namespace and its page name starts with the name of another namespace. Only the capital first letter
can make it do so: the page name is read as one of the main namespace before it has that letter. -/
theorem parse_fullName_standard (text : String) {fallback : Int}
    (defined : (Site.standard.namespace? fallback).isSome = true) :
    Title.parse Site.standard (Title.parse Site.standard text fallback).fullName mainNamespace =
        Title.parse Site.standard text fallback ↔
      ¬((Title.parse Site.standard text fallback).namespaceId = mainNamespace ∧
        (Title.prefix? Site.standard
          (Title.parse Site.standard text fallback).page.toList).isSome = true) :=
  Title.parse_fullName standard_plain text defined

theorem parse_fullName_user_talk :
    (Site.standard.namespace? 10).isSome = true ∧
      Title.parse Site.standard (Title.parse Site.standard "user_talk:some__body" 10).fullName
        mainNamespace = Title.parse Site.standard "user_talk:some__body" 10 := by
  have defined : (Site.standard.namespace? 10).isSome = true := by decide +kernel
  have apart : ¬((Title.parse Site.standard "user_talk:some__body" 10).namespaceId = mainNamespace ∧
      (Title.prefix? Site.standard
        (Title.parse Site.standard "user_talk:some__body" 10).page.toList).isSome = true) := by
    decide +kernel
  exact ⟨defined, (parse_fullName_standard "user_talk:some__body" defined).mpr apart⟩

/-- The long s is not an s in lower case, but its capital is the capital S. -/
theorem parse_fullName_long_s :
    (Site.standard.namespace? mainNamespace).isSome = true ∧
      (Title.parse Site.standard "ſpecial:x" mainNamespace).namespaceId = mainNamespace ∧
      (Title.parse Site.standard "ſpecial:x" mainNamespace).fullName = "Special:x" ∧
      Title.parse Site.standard (Title.parse Site.standard "ſpecial:x" mainNamespace).fullName
        mainNamespace ≠ Title.parse Site.standard "ſpecial:x" mainNamespace := by
  decide +kernel

end Wikitext
