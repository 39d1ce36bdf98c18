import Wikitext.Builtin
import Wikitext.Proofs.Titles.RoundTrip
import Wikitext.Site.Standard

/-!
The parts of a title. In a namespace with subpages the slashes divide a page name: the base stands
before the last slash, the root before the first, and the base starts with the root. The words for
the parts of a title answer alike, each with its part of the same title.
-/
namespace Wikitext
open Text

namespace Title

inductive OfSite (site : Site) : Title → Prop
  | known (id : Int) (name : String) : OfSite site (inNamespace site id name)
  | read (text : String) (fallback : Int) : OfSite site (parse site text fallback)

/-- The last slash and the first one divide the page name. -/
structure Divided (title : Title) : Prop where
  last : title.page = title.basePage ++ "/" ++ title.subPage
  subPlain : '/' ∉ title.subPage.toList
  first : ∃ rest, title.page = title.rootPage ++ "/" ++ rest
  rootPlain : '/' ∉ title.rootPage.toList
  nested : title.basePage = title.rootPage ∨
    ∃ between, title.basePage = title.rootPage ++ "/" ++ between

structure Undivided (title : Title) : Prop where
  base : title.basePage = title.page
  root : title.rootPage = title.page
  sub : title.subPage = title.page

theorem OfSite.exists_inNamespace {site : Site} {title : Title} (own : OfSite site title) :
    ∃ id name, title = inNamespace site id name := by
  cases own with
  | known id name => exact ⟨id, name, rfl⟩
  | read text fallback =>
    obtain ⟨rest, id, normal, _, _, whole⟩ := exists_ofNormal site text fallback
    rcases ofNormal_cases site normal id with ⟨_, ns, page, _, _, named⟩ | unnamed
    · exact ⟨ns.id, page, whole.trans named⟩
    · exact ⟨id, String.ofList rest, whole.trans unnamed⟩

theorem OfSite.subpages_eq {site : Site} {title : Title} (own : OfSite site title) :
    title.subpages = (site.namespace? title.namespaceId).any (·.subpages) := by
  obtain ⟨id, name, rfl⟩ := own.exists_inNamespace
  rw [namespaceId_inNamespace]
  cases found : site.namespace? id with
  | some ns => rw [inNamespace_some found, Option.any_some]
  | none => rw [inNamespace_none found, Option.any_none]

section
variable {title : Title} {part : List Char → Option (List Char)}

theorem component_of_cut {cs : List Char} (subpages : title.subpages = true)
    (cut : part title.page.toList = some cs) : title.component part = String.ofList cs := by
  simp only [component, subpages, cut]

theorem component_of_no_subpages (none : title.subpages = false) :
    title.component part = title.page := by
  simp only [component, none]

theorem component_of_uncut (uncut : part title.page.toList = none) :
    title.component part = title.page := by
  unfold component
  rw [uncut]
  cases title.subpages <;> rfl

end

theorem ofList_slash (before after : List Char) :
    String.ofList (before ++ '/' :: after) =
      String.ofList before ++ "/" ++ String.ofList after := by
  apply String.ext
  simp

theorem divided_of_slash {title : Title} (subpages : title.subpages = true)
    (slash : '/' ∈ title.page.toList) : title.Divided := by
  obtain ⟨base, sub, last⟩ := exists_cutLast slash
  obtain ⟨root, rest, first⟩ := exists_cutFirst slash
  have basePage : title.basePage = String.ofList base :=
    component_of_cut subpages (by rw [last, Option.map_some])
  have subPage : title.subPage = String.ofList sub :=
    component_of_cut subpages (by rw [last, Option.map_some])
  have rootPage : title.rootPage = String.ofList root :=
    component_of_cut subpages (by rw [first, Option.map_some])
  have lastWhole := cutLast_eq last
  have firstWhole := cutFirst_eq first
  have rootPlain := not_mem_of_cutFirst first
  constructor
  case last =>
    rw [basePage, subPage, ← ofList_slash, ← lastWhole, String.ofList_toList]
  case subPlain =>
    rw [subPage, String.toList_ofList]
    exact not_mem_of_cutLast last
  case first =>
    refine ⟨String.ofList rest, ?_⟩
    rw [rootPage, ← ofList_slash, ← firstWhole, String.ofList_toList]
  case rootPlain =>
    rw [rootPage, String.toList_ofList]
    exact rootPlain
  case nested =>
    -- the last slash is the first one or stands behind it
    rw [basePage, rootPage]
    rcases first_cut_before (firstWhole.symm.trans lastWhole) rootPlain with
      same | ⟨between, longer⟩
    · exact .inl (by rw [same])
    · exact .inr ⟨String.ofList between, by rw [longer, ofList_slash]⟩

theorem undivided_of_no_subpages {title : Title} (none : title.subpages = false) :
    title.Undivided where
  base := component_of_no_subpages none
  root := component_of_no_subpages none
  sub := component_of_no_subpages none

theorem undivided_of_no_slash {title : Title} (none : '/' ∉ title.page.toList) :
    title.Undivided where
  base := component_of_uncut (by rw [cutLast_eq_none.mpr none, Option.map_none])
  root := component_of_uncut (by rw [cutFirst_eq_none.mpr none, Option.map_none])
  sub := component_of_uncut (by rw [cutLast_eq_none.mpr none, Option.map_none])

end Title

namespace Builtin

def partHandlers : List (Handler × (Title → String)) :=
  [(namespaceName, Title.namespaceName), (pageName, Title.page), (basePageName, Title.basePage),
    (rootPageName, Title.rootPage), (subPageName, Title.subPage), (fullPageName, Title.fullName)]

theorem eq_titlePart_of_mem {handler : Handler × (Title → String)}
    (member : handler ∈ partHandlers) :
    handler.1 = titlePart fun _ title => handler.2 title := by
  revert handler
  simp only [partHandlers, List.forall_mem_cons]
  exact ⟨rfl, rfl, rfl, rfl, rfl, rfl, fun _ none => absurd none List.not_mem_nil⟩

section
variable {part : Site → Title → String} {setting : Setting} {frame : Frame}

theorem titlePart_current (plain : frame.call.firstArgument = none) :
    titlePart part setting frame = setting.currentTitle?.map (part setting.site) := by
  simp only [titlePart, plain]

theorem titlePart_empty (empty : frame.call.firstArgument = some "") :
    titlePart part setting frame = some "" := by
  simp only [titlePart, empty]

theorem titlePart_argument {argument : String} (asked : frame.call.firstArgument = some argument)
    (some : argument ≠ "") :
    titlePart part setting frame =
      .some (part setting.site (.parse setting.site argument mainNamespace)) := by
  simp only [titlePart, asked]

end

/-- The handlers all decline, all answer with nothing, or all tell their part of one title. -/
inductive AnswersAlike (setting : Setting) (frame : Frame) : Prop
  | declined (plain : frame.call.firstArgument = none) (untitled : setting.currentTitle? = none)
    (answers : ∀ handler ∈ partHandlers, handler.1 setting frame = none)
  | empty (blank : frame.call.firstArgument = some "")
    (answers : ∀ handler ∈ partHandlers, handler.1 setting frame = some "")
  | parts (title : Title)
    (asked : (frame.call.firstArgument = none ∧ setting.currentTitle? = some title) ∨
      ∃ argument, frame.call.firstArgument = some argument ∧ argument ≠ "" ∧
        title = .parse setting.site argument mainNamespace)
    (answers : ∀ handler ∈ partHandlers, handler.1 setting frame = some (handler.2 title))

theorem answersAlike (setting : Setting) (frame : Frame) : AnswersAlike setting frame := by
  cases asked : frame.call.firstArgument with
  | none =>
    cases current : setting.currentTitle? with
    | none =>
      refine .declined asked current fun handler member => ?_
      rw [eq_titlePart_of_mem member, titlePart_current asked, current, Option.map_none]
    | some title =>
      refine .parts title (.inl ⟨asked, current⟩) fun handler member => ?_
      rw [eq_titlePart_of_mem member, titlePart_current asked, current, Option.map_some]
  | some argument =>
    by_cases blank : argument = ""
    · subst blank
      refine .empty asked fun handler member => ?_
      rw [eq_titlePart_of_mem member, titlePart_empty asked]
    · refine .parts _ (.inr ⟨argument, asked, blank, rfl⟩) fun handler member => ?_
      rw [eq_titlePart_of_mem member, titlePart_argument asked blank]

theorem fullPageName_eq {setting : Setting} {frame : Frame} {space page : String}
    (named : namespaceName setting frame = some space)
    (paged : pageName setting frame = some page) :
    fullPageName setting frame = some (if space = "" then page else space ++ ":" ++ page) := by
  have spaceListed : (namespaceName, Title.namespaceName) ∈ partHandlers := by simp [partHandlers]
  have pageListed : (pageName, Title.page) ∈ partHandlers := by simp [partHandlers]
  have fullListed : (fullPageName, Title.fullName) ∈ partHandlers := by simp [partHandlers]
  cases answersAlike setting frame with
  | declined _ _ answers =>
    cases named.symm.trans (answers _ spaceListed)
  | empty _ answers =>
    cases named.symm.trans (answers _ spaceListed)
    cases paged.symm.trans (answers _ pageListed)
    exact answers _ fullListed
  | parts title _ answers =>
    cases named.symm.trans (answers _ spaceListed)
    cases paged.symm.trans (answers _ pageListed)
    exact answers _ fullListed

theorem titlePart_explicit {part : Site → Title → String} {setting : Setting} {frame plain : Frame}
    {argument : String} (asked : frame.call.firstArgument = some argument)
    (nonempty : argument ≠ "") (bare : plain.call.firstArgument = none) :
    titlePart part setting frame =
      titlePart part
        { setting with title := some (.parse setting.site argument mainNamespace) } plain := by
  rw [titlePart_argument asked nonempty, titlePart_current bare]
  rfl

end Builtin
open Builtin

/-- The slashes of a page name divide it into its parts if its namespace has subpages, and without
a slash or subpages it is each of the parts. The handlers that tell the parts of a title agree on
the title they tell about, and an argument stands for the explicit title that it names. -/
theorem titleParts_agree :
    (∀ site title, Title.OfSite site title →
      let subpages := (site.namespace? title.namespaceId).any (·.subpages)
      (subpages = true ∧ '/' ∈ title.page.toList → title.Divided) ∧
        (¬(subpages = true ∧ '/' ∈ title.page.toList) → title.Undivided)) ∧
    ∀ setting frame, AnswersAlike setting frame ∧
      (∀ space page, namespaceName setting frame = some space →
        pageName setting frame = some page →
          fullPageName setting frame = some (if space = "" then page else space ++ ":" ++ page)) ∧
      ∀ argument, frame.call.firstArgument = some argument → argument ≠ "" →
        ∀ plain : Frame, plain.call.firstArgument = none → ∀ handler ∈ partHandlers,
          handler.1 setting frame =
            handler.1 { setting with title := some (.parse setting.site argument mainNamespace) }
              plain := by
  constructor
  · intro site title own subpages
    have listed : title.subpages = subpages := own.subpages_eq
    constructor
    · rintro ⟨divisible, slash⟩
      exact Title.divided_of_slash (listed.trans divisible) slash
    · intro missing
      by_cases slash : '/' ∈ title.page.toList
      · have none : subpages = false := by simpa [slash] using missing
        exact Title.undivided_of_no_subpages (listed.trans none)
      · exact Title.undivided_of_no_slash slash
  · intro setting frame
    refine ⟨answersAlike setting frame, fun _ _ => fullPageName_eq, ?_⟩
    intro argument asked nonempty plain bare handler member
    rw [eq_titlePart_of_mem member]
    exact titlePart_explicit asked nonempty bare

theorem titleParts_agree_doubled_slash :
    let site : Site := { Site.blank with namespaces := [subpageNamespace 0 ""] }
    let setting : Setting := ⟨site, some ⟨"Page", none⟩, none, fun _ _ => none⟩
    let asking := Frame.root.child ⟨"BASEPAGENAME", some "a/b//c", .empty⟩
    let plain := Frame.root.child ⟨"BASEPAGENAME", none, .empty⟩
    (Title.parse site "a/b//c" mainNamespace).Divided ∧
      basePageName setting asking = some "A/b/" ∧
      basePageName setting asking =
        basePageName { setting with title := some (.parse site "a/b//c" mainNamespace) } plain := by
  intro site setting asking plain
  obtain ⟨divides, agrees⟩ := titleParts_agree
  refine ⟨?divided, by decide +kernel, ?explicit⟩
  case divided =>
    have own : Title.OfSite site (.parse site "a/b//c" mainNamespace) :=
      .read "a/b//c" mainNamespace
    exact (divides _ _ own).1 (by decide +kernel)
  case explicit =>
    obtain ⟨_, _, explicit⟩ := agrees setting asking
    exact explicit "a/b//c" rfl (by decide) plain rfl (basePageName, Title.basePage)
      (by simp [partHandlers])

end Wikitext
