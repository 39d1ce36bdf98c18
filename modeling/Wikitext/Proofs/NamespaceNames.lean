import Wikitext.Proofs.Namespaces
import Wikitext.Proofs.Text.LetterCase
import Wikitext.Proofs.Text.Trimming
import Wikitext.Proofs.Titles.Spacing

/-!
Namespaces by name. A loaded site finds a namespace under every text that folds to one of its names,
and under no other. Texts of blanks find nothing; but an underscore among them makes a text that
still folds to the empty name, which is the name of the main namespace.
-/
namespace Wikitext
open Text

theorem foldName_concat {c : Char} (blank : isBlank c = true) (cs : List Char) :
    foldName (String.ofList (cs ++ [c])) = foldName (String.ofList cs) := by
  have gap : isGap c = true := by rw [isGap, blank, Bool.or_true]
  simp only [foldName, underscoresToSpaces, trim, String.toList_ofList, List.map_append,
    List.map_singleton, trimChars_concat (isBlank_of_isGap gap)]

theorem foldName_eq_empty {name : String} :
    foldName name = "" ↔ ∀ c ∈ name.toList, isGap c = true := by
  have lowered : ∀ s, lower s = "" ↔ s = "" := by
    intro s
    constructor
    · exact lower_eq_empty
    · rintro rfl
      rfl
  rw [foldName, lowered, trim_eq_empty, underscoresToSpaces, String.toList_ofList,
    List.forall_mem_map]
  simp only [isGap_iff]

theorem trim_ne_of_foldName {name : String} (some : foldName name ≠ "") : trim name ≠ "" := by
  intro blank
  rw [trim_eq_empty] at blank
  apply some
  rw [foldName_eq_empty]
  intro c member
  rw [isGap, blank c member, Bool.or_true]

theorem trim_ne_empty_of_gaps {name : String} (gaps : foldName name = "") :
    trim name ≠ "" ↔ '_' ∈ name.toList := by
  rw [foldName_eq_empty] at gaps
  rw [Ne, trim_eq_empty]
  constructor
  · intro solid
    push Not at solid
    obtain ⟨c, member, plain⟩ := solid
    have gap := gaps c member
    rw [isGap, Bool.or_eq_true, beq_iff_eq] at gap
    exact gap.resolve_right plain ▸ member
  · intro mark blank
    exact absurd (blank '_' mark) (by decide)

theorem standard_loaded : standardDescription.site = .ok Site.standard := by
  have loads : standardDescription.site.isOk = true := by decide +kernel
  unfold Site.standard
  cases outcome : standardDescription.site with
  | ok site => rfl
  | error error =>
    rw [outcome] at loads
    cases loads

/-- On a loaded site a name that is not blank finds the one namespace that declares its folded form.
That the folded form is not empty decides it just as well, unless the name is made of blanks and
underscores, has an underscore, and a namespace declares the empty name. -/
theorem namespaceNamed?_exact {description : SiteDescription} {site : Site}
    (loaded : description.site = .ok site) (name : String) :
    (∀ ns, site.namespaceNamed? name = some ns ↔
      trim name ≠ "" ∧ ns ∈ site.namespaces ∧ ns.Declares (foldName name)) ∧
    (∀ ns ∈ site.namespaces, ∀ other ∈ site.namespaces, ns.Declares (foldName name) →
      other.Declares (foldName name) → ns = other) ∧
    ((∀ ns, site.namespaceNamed? name = some ns ↔
        foldName name ≠ "" ∧ ns ∈ site.namespaces ∧ ns.Declares (foldName name)) ↔
      ¬('_' ∈ name.toList ∧ (∀ c ∈ name.toList, isGap c = true) ∧
        ∃ ns ∈ site.namespaces, ns.Declares "")) := by
  have finds : ∀ ns, site.namespaceNamed? name = some ns ↔
      trim name ≠ "" ∧ ns ∈ site.namespaces ∧ ns.Declares (foldName name) :=
    fun ns => SiteDescription.namespaceNamed?_eq_some loaded
  refine ⟨finds, ?unique, ?folding⟩
  case unique =>
    intro ns member other inside declared alsoDeclared
    exact SiteDescription.eq_of_declares loaded member inside declared alsoDeclared
  case folding =>
    rw [← foldName_eq_empty]
    constructor
    · rintro rule ⟨mark, gaps, ns, member, declared⟩
      have solid := (trim_ne_empty_of_gaps gaps).mpr mark
      have found := (finds ns).mpr ⟨solid, member, gaps.symm ▸ declared⟩
      exact ((rule ns).mp found).1 gaps
    · intro apart ns
      rw [finds]
      by_cases gaps : foldName name = ""
      · constructor
        · rintro ⟨solid, member, declared⟩
          have mark := (trim_ne_empty_of_gaps gaps).mp solid
          exact absurd ⟨mark, gaps, ns, member, gaps ▸ declared⟩ apart
        · rintro ⟨some, _⟩
          exact absurd gaps some
      · simp [gaps, trim_ne_of_foldName gaps]

theorem namespaceNamed?_image :
    standardDescription.site = .ok Site.standard ∧
      Site.standard.namespaceNamed? "_iMAGE_talk\t" =
        some { subpageNamespace 7 "File talk" with aliases := ["Image talk"] } ∧
      ∀ ns, Site.standard.namespaceNamed? "_iMAGE_talk\t" = some ns ↔
        foldName "_iMAGE_talk\t" ≠ "" ∧ ns ∈ Site.standard.namespaces ∧
          ns.Declares (foldName "_iMAGE_talk\t") := by
  obtain ⟨finds, _, folding⟩ := namespaceNamed?_exact standard_loaded "_iMAGE_talk\t"
  have solid : trim "_iMAGE_talk\t" ≠ "" := by decide +kernel
  have listed : { subpageNamespace 7 "File talk" with aliases := ["Image talk"] } ∈
      Site.standard.namespaces :=
    (SiteDescription.mem_namespaces standard_loaded).mpr (by simp [standardDescription])
  have folded : foldName "Image talk" = foldName "_iMAGE_talk\t" := by decide +kernel
  refine ⟨standard_loaded, (finds _).mpr ⟨solid, listed, "Image talk", ?_, folded⟩,
    folding.mpr ?_⟩
  · simp [Namespace.names]
  · rintro ⟨_, gaps, _⟩
    exact absurd (gaps 'i' (by decide)) (by decide)

/-- The main namespace has an empty name, and an underscore is found as a spelling of it. -/
theorem namespaceNamed?_underscore :
    standardDescription.site = .ok Site.standard ∧ foldName "_" = "" ∧
      Site.standard.namespaceNamed? "_" = some (plainNamespace mainNamespace "") := by
  have folded : foldName "_" = "" := by decide +kernel
  have solid : trim "_" ≠ "" := by decide +kernel
  have listed : plainNamespace mainNamespace "" ∈ Site.standard.namespaces :=
    (SiteDescription.mem_namespaces standard_loaded).mpr
      (by simp [standardDescription, mainNamespace])
  refine ⟨standard_loaded, folded, ?_⟩
  rw [SiteDescription.namespaceNamed?_eq_some standard_loaded, folded]
  exact ⟨solid, listed, (plainNamespace mainNamespace "").declares_name⟩

end Wikitext
