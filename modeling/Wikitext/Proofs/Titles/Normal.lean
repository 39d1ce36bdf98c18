import Mathlib.Data.List.TakeWhile
import Wikitext.Proofs.Text.LetterCase
import Wikitext.Proofs.Titles.Names

/-!
Titles in normal form. The page name of a title is a normal name with the capital letter that its
namespace asks for, so a title is named by its namespace and its own page name.
-/
namespace Wikitext
open Text

namespace Text

theorem toList_upperFirst {s : String} {c : Char} {cs : List Char} (whole : s.toList = c :: cs) :
    (upperFirst s).toList = upperChar c ++ cs := by
  simp only [upperFirst, whole, String.toList_ofList]

theorem upperFirst_of_nil {s : String} (empty : s.toList = []) : upperFirst s = s := by
  simp only [upperFirst, empty]

theorem upperFirst_of_settled {s : String} {c : Char} {cs : List Char} (whole : s.toList = c :: cs)
    (settled : upperChar c = [c]) : upperFirst s = s := by
  apply String.ext
  rw [toList_upperFirst whole, settled, whole]
  rfl

theorem upperFirst_upperFirst (s : String) : upperFirst (upperFirst s) = upperFirst s := by
  cases whole : s.toList with
  | nil => rw [upperFirst_of_nil whole, upperFirst_of_nil whole]
  | cons c cs =>
    rcases upperChar_cases c with same | ⟨first, rest, upper, settled, _⟩
    · rw [upperFirst_of_settled whole same, upperFirst_of_settled whole same]
    · have front := toList_upperFirst whole
      rw [upper, List.cons_append] at front
      exact upperFirst_of_settled front settled

theorem head?_upperFirst {s : String} (start : s.toList.head? ≠ some ':') :
    (upperFirst s).toList.head? ≠ some ':' := by
  cases whole : s.toList with
  | nil => rwa [upperFirst_of_nil whole]
  | cons c cs =>
    rcases upperChar_cases c with same | ⟨first, rest, upper, _, plain⟩
    · rwa [upperFirst_of_settled whole same]
    · rw [toList_upperFirst whole, upper, List.cons_append, List.head?_cons]
      intro colon
      have mark := plain first List.mem_cons_self
      rw [Option.some.inj colon] at mark
      contradiction

end Text

theorem NormalName.replaceHead {c : Char} {cs word : List Char} (normal : NormalName (c :: cs))
    (some : word ≠ []) (plain : ∀ other ∈ word, isBlank other = false ∧ other ≠ '_') :
    NormalName (word ++ cs) where
  noUnderscore member := by
    rcases List.mem_append.mp member with front | back
    · exact (plain '_' front).2 rfl
    · exact normal.noUnderscore (List.mem_cons_of_mem c back)
  blank other member blank := by
    rcases List.mem_append.mp member with front | back
    · rw [(plain other front).1] at blank
      contradiction
    · exact normal.blank other (List.mem_cons_of_mem c back) blank
  single := by
    have front := NormalName.word plain
    rw [List.isChain_append]
    refine ⟨front.single, (List.isChain_cons.mp normal.single).2, ?_⟩
    intro last found next _ space
    exact absurd space (front.stop last found)
  start := by
    intro other found
    rw [List.head?_append_of_ne_nil word some] at found
    exact (NormalName.word plain).start other found
  stop := by
    intro other found
    cases cs with
    | nil =>
      rw [List.append_nil] at found
      exact (NormalName.word plain).stop other found
    | cons next rest =>
      rw [List.getLast?_append_of_ne_nil word (by simp)] at found
      exact normal.stop other (by rw [List.getLast?_cons_cons]; exact found)

theorem NormalName.upperFirst {s : String} (normal : NormalName s.toList) :
    NormalName (upperFirst s).toList := by
  cases whole : s.toList with
  | nil => rwa [upperFirst_of_nil whole]
  | cons c cs =>
    rcases upperChar_cases c with same | ⟨first, rest, upper, _, plain⟩
    · rwa [upperFirst_of_settled whole same]
    · rw [whole] at normal
      rw [toList_upperFirst whole, upper]
      apply normal.replaceHead (List.cons_ne_nil first rest)
      intro other member
      have mark := plain other member
      simp only [isSeparator, Bool.or_eq_false_iff, beq_eq_false_iff_ne] at mark
      exact mark.1

namespace Title

def capital (site : Site) (id : Int) (name : String) : String :=
  if (site.namespace? id).any (·.caseSensitive) then name else upperFirst name

variable {site : Site} {id : Int} {name other : String}

theorem capital_eq (site : Site) (id : Int) (name : String) :
    capital site id name = name ∨ capital site id name = upperFirst name := by
  unfold capital
  split
  · exact .inl rfl
  · exact .inr rfl

theorem capital_capital (site : Site) (id : Int) (name : String) :
    capital site id (capital site id name) = capital site id name := by
  unfold capital
  split
  · rfl
  · exact upperFirst_upperFirst name

theorem normalName_capital (normal : NormalName name.toList) :
    NormalName (capital site id name).toList := by
  rcases capital_eq site id name with same | upper
  · rwa [same]
  · rw [upper]
    exact normal.upperFirst

theorem inNamespace_some {ns : Namespace} (found : site.namespace? id = some ns) (name : String) :
    inNamespace site id name =
      ⟨id, ns.name, capital site id (normalizeName name), ns.subpages⟩ := by
  simp only [inNamespace, capital, found, Option.any_some]

theorem inNamespace_none (missing : site.namespace? id = none) (name : String) :
    inNamespace site id name = ⟨id, "", capital site id (normalizeName name), false⟩ := by
  simp only [inNamespace, capital, missing, Option.any_none, Bool.false_eq_true, if_false]

theorem namespaceId_inNamespace (site : Site) (id : Int) (name : String) :
    (inNamespace site id name).namespaceId = id := by
  cases found : site.namespace? id with
  | some ns => rw [inNamespace_some found]
  | none => rw [inNamespace_none found]

theorem page_inNamespace (site : Site) (id : Int) (name : String) :
    (inNamespace site id name).page = capital site id (normalizeName name) := by
  cases found : site.namespace? id with
  | some ns => rw [inNamespace_some found]
  | none => rw [inNamespace_none found]

theorem inNamespace_congr
    (same : capital site id (normalizeName name) = capital site id (normalizeName other)) :
    inNamespace site id name = inNamespace site id other := by
  cases found : site.namespace? id with
  | some ns => rw [inNamespace_some found, inNamespace_some found, same]
  | none => rw [inNamespace_none found, inNamespace_none found, same]

theorem normalName_page (site : Site) (id : Int) (name : String) :
    NormalName (inNamespace site id name).page.toList := by
  rw [page_inNamespace]
  exact normalName_capital (normalName_normalizeName name)

theorem inNamespace_normalizeName (site : Site) (id : Int) (name : String) :
    inNamespace site id (normalizeName name) = inNamespace site id name := by
  apply inNamespace_congr
  rw [normalizeName_normalizeName]

theorem inNamespace_page (site : Site) (id : Int) (name : String) :
    inNamespace site id (inNamespace site id name).page = inNamespace site id name := by
  apply inNamespace_congr
  rw [normalizeName_eq_self (normalName_page site id name), page_inNamespace, capital_capital]

theorem ofNormal_of_no_colon {text : List Char} (none : ':' ∉ text) (site : Site) (fallback : Int) :
    ofNormal site text fallback = inNamespace site fallback (String.ofList text) := by
  simp only [ofNormal, cutFirst_eq_none.mpr none]

theorem parse_of_no_colon {text : String} (none : ':' ∉ text.toList) (site : Site)
    (fallback : Int) : parse site text fallback = inNamespace site fallback text := by
  have absent : ':' ∉ (normalizeName text).toList := by
    intro member
    rcases mem_normalizeName member with space | inside
    · exact absurd space (by decide)
    · exact none inside
  have start : (normalizeName text).toList.head? ≠ some ':' := by
    intro colon
    exact absent (List.mem_of_mem_head? colon)
  simp only [parse, if_neg start]
  rw [ofNormal_of_no_colon absent, String.ofList_toList, inNamespace_normalizeName]

end Title

end Wikitext
