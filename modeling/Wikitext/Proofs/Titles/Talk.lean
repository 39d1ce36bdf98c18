import Wikitext.Builtin
import Wikitext.Proofs.Titles.RoundTrip

/-!
Talk pages. The page name of a title is in normal form and names the title again, and the talk page
of a talk page is that page itself. The talk page of a subject page is named like the subject page
only where the talk namespace is missing from the site and the subject namespace has the empty name.
-/
namespace Wikitext
open Text

namespace Title

theorem talkId_even {id : Int} (even : id % 2 = 0) : talkId id = id + 1 := if_pos even

theorem talkId_odd {id : Int} (odd : id % 2 = 1) : talkId id = id := if_neg (by omega)

theorem odd_talkId (id : Int) : talkId id % 2 = 1 := by
  unfold talkId
  split <;> omega

theorem le_talkId (id : Int) : id ≤ talkId id := by
  unfold talkId
  split <;> omega

theorem talkId_eq_or {id : Int} (natural : 0 ≤ id) :
    talkId id = ((id.toNat ||| 1 : Nat) : Int) := by
  obtain ⟨number, rfl⟩ := Int.eq_ofNat_of_zero_le natural
  rw [Int.toNat_natCast]
  have bit := Nat.two_pow_add_eq_or_of_lt (i := 1) (b := 1) (by decide) (number / 2)
  rcases Nat.mod_two_eq_zero_or_one number with even | odd
  · have half : number = 2 ^ 1 * (number / 2) := by omega
    rw [talkId_even (by omega), half, ← bit]
    omega
  · have half : number = 2 ^ 1 * (number / 2) ||| 1 := by omega
    rw [talkId_odd (by omega), half, Nat.or_assoc, Nat.or_self]

theorem talk?_natural {id : Int} (natural : 0 ≤ id) (site : Site) (name : String) :
    (inNamespace site id name).talk? site =
      some (inNamespace site (talkId id) (inNamespace site id name).page) := by
  rw [talk?, namespaceId_inNamespace, if_neg (by omega)]

/-- The page name of a title is in normal form and names the title again. Namespaces of negative
ids have no talk pages; in the others the talk page is in the odd one of each pair of namespaces,
is its own talk page, and is the page itself exactly if the page is in that namespace. -/
theorem inNamespace_settled (site : Site) (id : Int) (name : String) :
    let title := inNamespace site id name
    NormalName title.page.toList ∧ inNamespace site id title.page = title ∧
      (id < 0 → title.talk? site = none) ∧
      (0 ≤ id → ∃ talk, title.talk? site = some talk ∧
        talk.namespaceId = ((id.toNat ||| 1 : Nat) : Int) ∧ talk.talk? site = some talk ∧
        (talk = title ↔ id % 2 = 1)) := by
  intro title
  refine ⟨normalName_page site id name, inNamespace_page site id name, ?virtual, ?talk⟩
  case virtual =>
    intro negative
    rw [talk?, namespaceId_inNamespace, if_pos negative]
  case talk =>
    intro natural
    have later : 0 ≤ talkId id := Int.le_trans natural (le_talkId id)
    refine ⟨_, talk?_natural natural site name, ?_, ?_, ?_⟩
    · rw [namespaceId_inNamespace, talkId_eq_or natural]
    · rw [talk?_natural later, talkId_odd (odd_talkId id), inNamespace_page]
    · constructor
      · intro same
        have ids := congrArg namespaceId same
        rw [namespaceId_inNamespace, namespaceId_inNamespace] at ids
        rw [← ids]
        exact odd_talkId id
      · intro odd
        rw [talkId_odd odd, inNamespace_page]

def lead (name : String) : List Char := if name = "" then [] else name.toList ++ [':']

theorem lead_injective {first second : String} (same : lead first = lead second) :
    first = second := by
  unfold lead at same
  split at same <;> split at same
  · rename_i none empty
    rw [none, empty]
  · simp at same
  · simp at same
  · exact String.toList_inj.mp (List.append_cancel_right same)

theorem toList_fullName (title : Title) :
    title.fullName.toList = lead title.namespaceName ++ title.page.toList := by
  by_cases named : title.namespaceName = ""
  · rw [fullName, lead, if_pos named, if_pos named, List.nil_append]
  · rw [toList_fullName_named named, lead, if_neg named, List.append_assoc]
    rfl

/-- Two titles with the same page name, but for its capital letter, have the same full name only if
both parts are the same: the capital letter cannot make up for a longer name of the namespace. -/
theorem parts_of_fullName {title other : Title}
    (page : other.page = title.page ∨ other.page = upperFirst title.page)
    (same : other.fullName = title.fullName) :
    other.namespaceName = title.namespaceName ∧ other.page = title.page := by
  have whole : lead other.namespaceName ++ other.page.toList =
      lead title.namespaceName ++ title.page.toList := by
    rw [← toList_fullName, ← toList_fullName, same]
  have pages : other.page = title.page := by
    rcases page with equal | upper
    · exact equal
    cases chars : title.page.toList with
    | nil => rw [upper, upperFirst_of_nil chars]
    | cons c cs =>
      by_cases settled : upperChar c = [c]
      · rw [upper, upperFirst_of_settled chars settled]
      · -- without the rest of the page name, the capital form would end in the letter itself
        exfalso
        rw [upper, toList_upperFirst chars, chars, List.append_cons, ← List.append_assoc] at whole
        have ends := congrArg List.getLast? (List.append_cancel_right whole)
        rw [List.getLast?_append_of_ne_nil _ (upperChar_ne_nil c), List.getLast?_concat] at ends
        exact settled (upperChar_of_getLast? ends)
  rw [pages] at whole
  exact ⟨lead_injective (List.append_cancel_right whole), pages⟩

theorem fullName_eq_iff {description : SiteDescription} {site : Site}
    (loaded : description.site = .ok site) {id other : Int} {ns : Namespace}
    (found : site.namespace? id = some ns) (apart : other ≠ id) (name : String) :
    (inNamespace site other (inNamespace site id name).page).fullName =
        (inNamespace site id name).fullName ↔
      site.namespace? other = none ∧ ns.name = "" ∧
        upperFirst (inNamespace site id name).page = (inNamespace site id name).page := by
  have normal := normalizeName_eq_self (normalName_page site id name)
  have own : (inNamespace site id name).namespaceName = ns.name := by rw [inNamespace_some found]
  generalize inNamespace site id name = title at normal own
  have page : (inNamespace site other title.page).page = capital site other title.page := by
    rw [page_inNamespace, normal]
  constructor
  · intro same
    obtain ⟨names, pages⟩ := parts_of_fullName (page ▸ capital_eq site other title.page) same
    cases listed : site.namespace? other with
    | some otherNs =>
      rw [inNamespace_some listed, own] at names
      -- namespaces with the same name are the same one
      have own : ns.Declares (foldName otherNs.name) := by
        rw [show otherNs.name = ns.name from names]
        exact ns.declares_name
      have same := SiteDescription.eq_of_declares loaded (Site.mem_of_namespace? listed)
        (Site.mem_of_namespace? found) otherNs.declares_name own
      have ids := congrArg Namespace.id same
      rw [Site.id_of_namespace? listed, Site.id_of_namespace? found] at ids
      exact absurd ids apart
    | none =>
      rw [inNamespace_none listed, own] at names
      rw [page] at pages
      exact ⟨rfl, names.symm, by simpa [capital, listed] using pages⟩
  · rintro ⟨missing, empty, settled⟩
    have same : (inNamespace site other title.page).page = title.page := by
      rw [page, capital, missing]
      exact settled
    rw [fullName, fullName, own, same, inNamespace_none missing, if_pos rfl, if_pos empty]

/-- On a loaded site the talk page of a subject page has the full name of the page exactly if the
site lacks the talk namespace, the subject namespace has the empty name, and the page name is its
own capital form. On the page itself the words for the two names give these full names. -/
theorem fullName_talk_eq_iff {description : SiteDescription} {site : Site}
    (loaded : description.site = .ok site) {id : Int} {ns : Namespace}
    (found : site.namespace? id = some ns) (natural : 0 ≤ id) (even : id % 2 = 0) (name : String) :
    let title := inNamespace site id name
    ∃ talk, title.talk? site = some talk ∧
      (talk.fullName = title.fullName ↔
        site.namespace? (id + 1) = none ∧ ns.name = "" ∧ upperFirst title.page = title.page) ∧
      ∀ setting frame, setting.site = site → setting.currentTitle? = some title →
        frame.call.firstArgument = none →
        Builtin.talkPageName setting frame = some talk.fullName ∧
          Builtin.fullPageName setting frame = some title.fullName := by
  intro title
  have answer : title.talk? site = some (inNamespace site (id + 1) title.page) := by
    rw [← talkId_even even]
    exact talk?_natural natural site name
  refine ⟨_, answer, fullName_eq_iff loaded found (by omega) name, ?words⟩
  case words =>
    rintro setting frame rfl current plain
    constructor
    · simp [Builtin.talkPageName, Builtin.titlePart, plain, current, answer]
    · simp [Builtin.fullPageName, Builtin.titlePart, plain, current]

def leastDescription (caseSensitive : Bool) : SiteDescription where
  name := none
  tags := none
  namespaces := [{ plainNamespace 0 "" with caseSensitive }, plainNamespace 10 "Template"]
  words := []

theorem exists_site (description : SiteDescription) (test : Site → Bool)
    (passes : description.site.toOption.any test = true) :
    ∃ site, description.site = .ok site ∧ test site = true := by
  cases outcome : description.site with
  | error error =>
    rw [outcome] at passes
    cases passes
  | ok site =>
    rw [outcome] at passes
    exact ⟨site, rfl, passes⟩

theorem fullName_talk_small_letter :
    ∃ site ns, (leastDescription true).site = .ok site ∧ site.namespace? 0 = some ns ∧
      site.namespace? 1 = none ∧ ns.name = "" ∧
      ∃ talk, (inNamespace site 0 "a").talk? site = some talk ∧
        talk.fullName ≠ (inNamespace site 0 "a").fullName := by
  obtain ⟨site, loaded, checks⟩ := exists_site (leastDescription true)
    (fun site => decide (site.namespace? 0 = some ⟨0, "", none, [], true, false⟩ ∧
      site.namespace? 1 = none ∧
      upperFirst (inNamespace site 0 "a").page ≠ (inNamespace site 0 "a").page)) (by decide +kernel)
  obtain ⟨found, missing, small⟩ := of_decide_eq_true checks
  obtain ⟨talk, answer, names, _⟩ := fullName_talk_eq_iff loaded found (by decide) (by decide) "a"
  exact ⟨site, _, loaded, found, missing, rfl, talk, answer, fun same => small (names.mp same).2.2⟩

/-- Without a talk namespace the talk page of a page of the main namespace has its name. -/
theorem fullName_talk_missing_namespace :
    ∃ site, (leastDescription false).site = .ok site ∧
      site.namespace? 0 = some (plainNamespace 0 "") ∧ site.namespace? 1 = none ∧
      (inNamespace site 0 "A").talk? site = some ⟨1, "", "A", false⟩ ∧
      (⟨1, "", "A", false⟩ : Title).fullName = (inNamespace site 0 "A").fullName := by
  obtain ⟨site, loaded, checks⟩ := exists_site (leastDescription false)
    (fun site => decide (site.namespace? 0 = some (plainNamespace 0 "") ∧
      site.namespace? 1 = none ∧
      (inNamespace site 0 "A").talk? site = some ⟨1, "", "A", false⟩ ∧
      (⟨1, "", "A", false⟩ : Title).fullName = (inNamespace site 0 "A").fullName))
    (by decide +kernel)
  exact ⟨site, loaded, of_decide_eq_true checks⟩

end Title

end Wikitext
