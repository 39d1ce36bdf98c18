import Mathlib.Data.List.Induction
import Mathlib.Data.List.Nodup
import Wikitext.Site.Description
import Wikitext.Site.Standard

/-!
The namespaces of a site. A description is refused for the first thing that is wrong with it, in the
order in which it lists its namespaces; where nothing is, the site finds every declared name, and
nothing else, as a name of the one namespace that declares it.
-/
namespace Wikitext

theorem Site.mem_of_namespace? {site : Site} {id : Int} {ns : Namespace}
    (found : site.namespace? id = some ns) : ns ∈ site.namespaces :=
  List.mem_of_find?_eq_some found

theorem Site.id_of_namespace? {site : Site} {id : Int} {ns : Namespace}
    (found : site.namespace? id = some ns) : ns.id = id := by
  have passes := List.find?_some found
  simpa using passes

theorem Site.namespace?_of_named {site : Site} {name : String} {ns : Namespace}
    (named : site.namespaceNamed? name = some ns) : site.namespace? ns.id = some ns := by
  unfold namespaceNamed? at named
  split at named
  · contradiction
  · obtain ⟨id, _, found⟩ := Option.bind_eq_some_iff.mp named
    rwa [id_of_namespace? found]

def Namespace.Declares (ns : Namespace) (folded : String) : Prop :=
  ∃ name ∈ ns.names, foldName name = folded

theorem Namespace.declares_name (ns : Namespace) : ns.Declares (foldName ns.name) :=
  ⟨ns.name, List.mem_cons_self, rfl⟩

def Owned (listed : List Namespace) (folded : String) (id : Int) : Prop :=
  ∃ ns ∈ listed, ns.id = id ∧ ns.Declares folded

def Namespace.MayUse (ns : Namespace) (listed : List Namespace) (name : String) : Prop :=
  ∀ id, Owned listed (foldName name) id → id = ns.id

/-- No id is listed twice, and namespaces of different ids share no name. -/
structure Separate (listed : List Namespace) : Prop where
  ids : (listed.map (·.id)).Nodup
  names : ∀ ns ∈ listed, ∀ other ∈ listed, ∀ folded, ns.Declares folded → other.Declares folded →
    ns.id = other.id

structure SiteDescription.Valid (description : SiteDescription) : Prop where
  separate : Separate description.namespaces
  main : mainNamespace ∈ description.namespaces.map (·.id)
  template : templateNamespace ∈ description.namespaces.map (·.id)

/-- The first thing that is wrong with a list of namespaces. Of one namespace the names come before
the id, and namespaces that are missing come last. -/
inductive FirstFault : List Namespace → SiteError → Prop where
  | sharedName {before after : List Namespace} {ns : Namespace} {early late : List String}
      {name : String} {owner : Int} (sound : Separate before)
      (names : ns.names = early ++ name :: late)
      (free : ∀ earlier ∈ early, ns.MayUse before earlier)
      (owned : Owned before (foldName name) owner) (other : owner ≠ ns.id) :
      FirstFault (before ++ ns :: after) (.sharedName name owner ns.id)
  | repeatedId {before after : List Namespace} {ns : Namespace} (sound : Separate before)
      (free : ∀ name ∈ ns.names, ns.MayUse before name) (known : ns.id ∈ before.map (·.id)) :
      FirstFault (before ++ ns :: after) (.duplicateId ns.id)
  | noMain {listed : List Namespace} (sound : Separate listed)
      (missing : mainNamespace ∉ listed.map (·.id)) :
      FirstFault listed (.missingNamespace mainNamespace)
  | noTemplate {listed : List Namespace} (sound : Separate listed)
      (main : mainNamespace ∈ listed.map (·.id))
      (missing : templateNamespace ∉ listed.map (·.id)) :
      FirstFault listed (.missingNamespace templateNamespace)

theorem owned_concat {listed : List Namespace} {ns : Namespace} {folded : String} {id : Int} :
    Owned (listed ++ [ns]) folded id ↔
      Owned listed folded id ∨ id = ns.id ∧ ns.Declares folded := by
  constructor
  · rintro ⟨other, member, same, declared⟩
    rcases List.mem_append.mp member with earlier | last
    · exact .inl ⟨other, earlier, same, declared⟩
    · cases List.mem_singleton.mp last
      exact .inr ⟨same.symm, declared⟩
  · rintro (⟨other, member, same, declared⟩ | ⟨same, declared⟩)
    · exact ⟨other, List.mem_append_left _ member, same, declared⟩
    · exact ⟨ns, List.mem_append_right _ List.mem_cons_self, same.symm, declared⟩

theorem separate_nil : Separate [] := ⟨List.nodup_nil, by simp⟩

theorem Separate.concat {listed : List Namespace} {ns : Namespace} (separate : Separate listed)
    (free : ∀ name ∈ ns.names, ns.MayUse listed name) (fresh : ns.id ∉ listed.map (·.id)) :
    Separate (listed ++ [ns]) := by
  have shared : ∀ other ∈ listed, ∀ folded, other.Declares folded → ns.Declares folded →
      other.id = ns.id := by
    rintro other member folded declared ⟨name, own, rfl⟩
    exact free name own other.id ⟨other, member, rfl, declared⟩
  constructor
  · rw [List.map_append, List.map_singleton, List.nodup_append]
    refine ⟨separate.ids, by simp, ?_⟩
    rintro id inside other last rfl
    exact fresh (List.mem_singleton.mp last ▸ inside)
  · intro first firstMember second secondMember folded firstDeclares secondDeclares
    rcases List.mem_append.mp firstMember with earlier | last
    · rcases List.mem_append.mp secondMember with inside | here
      · exact separate.names first earlier second inside folded firstDeclares secondDeclares
      · cases List.mem_singleton.mp here
        exact shared first earlier folded firstDeclares secondDeclares
    · cases List.mem_singleton.mp last
      rcases List.mem_append.mp secondMember with inside | here
      · exact (shared second inside folded secondDeclares firstDeclares).symm
      · cases List.mem_singleton.mp here
        rfl

theorem Separate.front {before after : List Namespace} (separate : Separate (before ++ after)) :
    Separate before where
  ids := by
    have ids := separate.ids
    rw [List.map_append, List.nodup_append] at ids
    exact ids.1
  names ns member other inside :=
    separate.names ns (List.mem_append_left _ member) other (List.mem_append_left _ inside)

theorem Separate.last {listed : List Namespace} {ns : Namespace}
    (separate : Separate (listed ++ [ns])) :
    (∀ name ∈ ns.names, ns.MayUse listed name) ∧ ns.id ∉ listed.map (·.id) := by
  have own : ns ∈ listed ++ [ns] := List.mem_append_right _ List.mem_cons_self
  constructor
  · rintro name member id ⟨other, inside, rfl, declared⟩
    exact separate.names other (List.mem_append_left _ inside) ns own _ declared
      ⟨name, member, rfl⟩
  · intro known
    have ids := separate.ids
    rw [List.map_append, List.map_singleton, List.nodup_append] at ids
    exact ids.2.2 ns.id known ns.id List.mem_cons_self rfl

theorem exists_first_owned {listed : List Namespace} {ns : Namespace} {names : List String}
    (taken : ¬∀ name ∈ names, ns.MayUse listed name) :
    ∃ early name late owner, names = early ++ name :: late ∧
      (∀ earlier ∈ early, ns.MayUse listed earlier) ∧ Owned listed (foldName name) owner ∧
      owner ≠ ns.id := by
  induction names with
  | nil => simp at taken
  | cons first rest ih =>
    by_cases free : ns.MayUse listed first
    · have later : ¬∀ name ∈ rest, ns.MayUse listed name := by
        intro all
        apply taken
        intro name member
        rcases List.mem_cons.mp member with rfl | inside
        · exact free
        · exact all name inside
      obtain ⟨early, name, late, owner, whole, before, owned, other⟩ := ih later
      refine ⟨first :: early, name, late, owner, by rw [whole]; rfl, ?_, owned, other⟩
      intro earlier member
      rcases List.mem_cons.mp member with rfl | inside
      · exact free
      · exact before earlier inside
    · unfold Namespace.MayUse at free
      push Not at free
      obtain ⟨owner, owned, other⟩ := free
      exact ⟨[], first, rest, owner, rfl, by simp, owned, other⟩

theorem separate_or_fault (listed : List Namespace) :
    Separate listed ∨ ∃ error, (∀ more, FirstFault (listed ++ more) error) := by
  induction listed using List.reverseRecOn with
  | nil => exact .inl separate_nil
  | append_singleton before ns ih =>
    rcases ih with separate | ⟨error, fault⟩
    · by_cases free : ∀ name ∈ ns.names, ns.MayUse before name
      · by_cases fresh : ns.id ∈ before.map (·.id)
        · refine .inr ⟨.duplicateId ns.id, fun more => ?_⟩
          rw [List.append_assoc]
          exact .repeatedId separate free fresh
        · exact .inl (separate.concat free fresh)
      · obtain ⟨early, name, late, owner, names, earlier, owned, other⟩ := exists_first_owned free
        refine .inr ⟨.sharedName name owner ns.id, fun more => ?_⟩
        rw [List.append_assoc]
        exact .sharedName separate names earlier owned other
    · refine .inr ⟨error, fun more => ?_⟩
      rw [List.append_assoc]
      exact fault ([ns] ++ more)

theorem valid_or_fault (description : SiteDescription) :
    description.Valid ∨ ∃ error, FirstFault description.namespaces error := by
  rcases separate_or_fault description.namespaces with separate | ⟨error, fault⟩
  · by_cases main : mainNamespace ∈ description.namespaces.map (·.id)
    · by_cases template : templateNamespace ∈ description.namespaces.map (·.id)
      · exact .inl ⟨separate, main, template⟩
      · exact .inr ⟨_, .noTemplate separate main template⟩
    · exact .inr ⟨_, .noMain separate main⟩
  · have whole := fault []
    rw [List.append_nil] at whole
    exact .inr ⟨error, whole⟩

section
variable {id : Int} {owners : Bindings Int}

theorem claimName_free {name : String}
    (free : ∀ owner, owners.find? (foldName name) = some owner → owner = id) :
    ∃ next, claimName id owners name = .ok next ∧ ∀ folded owner,
      next.find? folded = some owner ↔
        owners.find? folded = some owner ∨ owner = id ∧ foldName name = folded := by
  unfold claimName
  cases found : owners.find? (foldName name) with
  | some first =>
    have same := free first found
    refine ⟨owners, by simp [same], fun folded owner => ⟨.inl, ?_⟩⟩
    rintro (known | ⟨rfl, rfl⟩)
    · exact known
    · rw [found, same]
  | none =>
    refine ⟨_, rfl, fun folded owner => ?_⟩
    rw [Bindings.find?_insert]
    by_cases here : folded = foldName name
    · rw [if_pos here, here, found]
      simp [eq_comm]
    · rw [if_neg here]
      simp [Ne.symm here]

theorem claimName_owned {name : String} {owner : Int}
    (owned : owners.find? (foldName name) = some owner) (other : owner ≠ id) :
    claimName id owners name = .error (.sharedName name owner id) := by
  unfold claimName
  rw [owned]
  exact if_neg other

theorem claimNames_free {names : List String}
    (free : ∀ name ∈ names, ∀ owner, owners.find? (foldName name) = some owner → owner = id) :
    ∃ next, names.foldlM (claimName id) owners = .ok next ∧ ∀ folded owner,
      next.find? folded = some owner ↔
        owners.find? folded = some owner ∨ owner = id ∧ ∃ name ∈ names, foldName name = folded := by
  induction names generalizing owners with
  | nil => exact ⟨owners, rfl, by simp⟩
  | cons name rest ih =>
    obtain ⟨middle, first, index⟩ := claimName_free (free name List.mem_cons_self)
    have later : ∀ other ∈ rest, ∀ owner, middle.find? (foldName other) = some owner →
        owner = id := by
      intro other member owner found
      rcases (index _ owner).mp found with known | ⟨same, _⟩
      · exact free other (List.mem_cons_of_mem name member) owner known
      · exact same
    obtain ⟨next, others, indexLater⟩ := ih later
    refine ⟨next, ?_, fun folded owner => ?_⟩
    · rw [List.foldlM_cons, first]
      exact others
    · simp only [indexLater, index, or_assoc, List.mem_cons, exists_eq_or_imp, and_or_left]

theorem claimNames_owned {early late : List String} {name : String} {owner : Int}
    (free : ∀ earlier ∈ early, ∀ other, owners.find? (foldName earlier) = some other → other = id)
    (owned : owners.find? (foldName name) = some owner) (other : owner ≠ id) :
    (early ++ name :: late).foldlM (claimName id) owners =
      .error (.sharedName name owner id) := by
  obtain ⟨middle, start, index⟩ := claimNames_free free
  have found : middle.find? (foldName name) = some owner := (index _ _).mpr (.inl owned)
  rw [List.foldlM_append, start]
  change (name :: late).foldlM (claimName id) middle = _
  rw [List.foldlM_cons, claimName_owned found other]
  rfl

end

theorem mem_insertById {ns other : Namespace} {listed : List Namespace} :
    other ∈ insertById ns listed ↔ other = ns ∨ other ∈ listed := by
  induction listed with
  | nil => simp [insertById]
  | cons first rest ih =>
    rw [insertById]
    split
    · simp
    · simp [ih, or_left_comm]

structure NamespaceTable.Reads (table : NamespaceTable) (listed : List Namespace) : Prop where
  members : ∀ ns, ns ∈ table.namespaces ↔ ns ∈ listed
  index : ∀ folded id, table.owners.find? folded = some id ↔ Owned listed folded id

namespace NamespaceTable.Reads
variable {table : NamespaceTable} {listed : List Namespace}

theorem any_id (reads : table.Reads listed) (id : Int) :
    (table.namespaces.any (·.id == id)) = true ↔ id ∈ listed.map (·.id) := by
  simp [reads.members]

theorem add (reads : table.Reads listed) {ns : Namespace}
    (free : ∀ name ∈ ns.names, ns.MayUse listed name) (fresh : ns.id ∉ listed.map (·.id)) :
    ∃ next, table.add ns = .ok next ∧ next.Reads (listed ++ [ns]) := by
  obtain ⟨owners, claimed, index⟩ := claimNames_free fun name member owner found =>
    free name member owner ((reads.index _ _).mp found)
  rw [← reads.any_id] at fresh
  refine ⟨⟨insertById ns table.namespaces, owners⟩, ?_, ?_, ?_⟩
  · unfold NamespaceTable.add
    rw [claimed]
    exact if_neg fresh
  · intro other
    rw [mem_insertById, reads.members]
    simp [or_comm]
  · intro folded id
    rw [index, reads.index, owned_concat]
    rfl

theorem add_shared (reads : table.Reads listed) {ns : Namespace} {early late : List String}
    {name : String} {owner : Int} (names : ns.names = early ++ name :: late)
    (free : ∀ earlier ∈ early, ns.MayUse listed earlier)
    (owned : Owned listed (foldName name) owner) (other : owner ≠ ns.id) :
    table.add ns = .error (.sharedName name owner ns.id) := by
  have refused : (early ++ name :: late).foldlM (claimName ns.id) table.owners =
      .error (.sharedName name owner ns.id) := by
    apply claimNames_owned
    · intro earlier member first found
      exact free earlier member first ((reads.index _ _).mp found)
    · exact (reads.index _ _).mpr owned
    · exact other
  unfold NamespaceTable.add
  rw [names, refused]
  rfl

theorem add_repeated (reads : table.Reads listed) {ns : Namespace}
    (free : ∀ name ∈ ns.names, ns.MayUse listed name) (known : ns.id ∈ listed.map (·.id)) :
    table.add ns = .error (.duplicateId ns.id) := by
  obtain ⟨owners, claimed, _⟩ := claimNames_free fun name member owner found =>
    free name member owner ((reads.index _ _).mp found)
  rw [← reads.any_id] at known
  unfold NamespaceTable.add
  rw [claimed]
  exact if_pos known

theorem require (reads : table.Reads listed) (id : Int) :
    requireNamespace table id =
      if id ∈ listed.map (·.id) then .ok () else .error (.missingNamespace id) := by
  unfold requireNamespace
  simp only [reads.any_id]

end NamespaceTable.Reads

theorem reads_empty : NamespaceTable.empty.Reads [] :=
  ⟨fun _ => Iff.rfl, fun folded id => by simp [NamespaceTable.empty, Bindings.find?_empty, Owned]⟩

theorem foldlM_add_separate {listed : List Namespace} (separate : Separate listed) :
    ∃ table, listed.foldlM NamespaceTable.add .empty = .ok table ∧ table.Reads listed := by
  induction listed using List.reverseRecOn with
  | nil => exact ⟨_, rfl, reads_empty⟩
  | append_singleton before ns ih =>
    obtain ⟨table, start, reads⟩ := ih separate.front
    obtain ⟨free, fresh⟩ := separate.last
    obtain ⟨next, added, readsNext⟩ := reads.add free fresh
    refine ⟨next, ?_, readsNext⟩
    rw [List.foldlM_append, start]
    change [ns].foldlM NamespaceTable.add table = _
    rw [List.foldlM_cons, added]
    rfl

theorem foldlM_add_error {before after : List Namespace} {ns : Namespace} {table : NamespaceTable}
    {error : SiteError} (start : before.foldlM NamespaceTable.add .empty = .ok table)
    (refused : table.add ns = .error error) :
    (before ++ ns :: after).foldlM NamespaceTable.add .empty = .error error := by
  rw [List.foldlM_append, start]
  change (ns :: after).foldlM NamespaceTable.add table = _
  rw [List.foldlM_cons, refused]
  rfl

namespace SiteDescription
variable {description : SiteDescription}

def siteOf (description : SiteDescription) (table : NamespaceTable) : Site where
  name := description.name
  namespaces := table.namespaces
  owners := table.owners
  words := .ofList description.words
  tags := match description.tags with
    | none => .standard
    | some names => .ofNames names

theorem site_refused {error : SiteError}
    (refused : description.namespaces.foldlM NamespaceTable.add .empty = .error error) :
    description.site = .error error := by
  unfold site
  rw [refused]
  rfl

/-- Where the namespaces are apart, only the two that every site has may still be missing. -/
theorem site_separate (separate : Separate description.namespaces) :
    ∃ table : NamespaceTable, table.Reads description.namespaces ∧ description.site =
      if mainNamespace ∈ description.namespaces.map (·.id) then
        if templateNamespace ∈ description.namespaces.map (·.id) then
          .ok (description.siteOf table)
        else .error (.missingNamespace templateNamespace)
      else .error (.missingNamespace mainNamespace) := by
  obtain ⟨table, read, reads⟩ := foldlM_add_separate separate
  have whole : description.site = requireNamespace table mainNamespace >>= fun _ =>
      requireNamespace table templateNamespace >>= fun _ => .ok (description.siteOf table) := by
    unfold site
    rw [read]
    rfl
  refine ⟨table, reads, ?_⟩
  rw [whole, reads.require, reads.require]
  split
  · split <;> rfl
  · rfl

theorem site_of_fault {error : SiteError} (fault : FirstFault description.namespaces error) :
    description.site = .error error := by
  generalize whole : description.namespaces = listed at fault
  cases fault with
  | sharedName sound names free owned other =>
    obtain ⟨table, start, reads⟩ := foldlM_add_separate sound
    apply site_refused
    rw [whole]
    exact foldlM_add_error start (reads.add_shared names free owned other)
  | repeatedId sound free known =>
    obtain ⟨table, start, reads⟩ := foldlM_add_separate sound
    apply site_refused
    rw [whole]
    exact foldlM_add_error start (reads.add_repeated free known)
  | noMain sound missing =>
    subst whole
    obtain ⟨table, _, outcome⟩ := site_separate sound
    rw [outcome, if_neg missing]
  | noTemplate sound main missing =>
    subst whole
    obtain ⟨table, _, outcome⟩ := site_separate sound
    rw [outcome, if_pos main, if_neg missing]

theorem site_of_valid (valid : description.Valid) :
    ∃ table : NamespaceTable, table.Reads description.namespaces ∧
      description.site = .ok (description.siteOf table) := by
  obtain ⟨table, reads, outcome⟩ := site_separate valid.separate
  exact ⟨table, reads, by rw [outcome, if_pos valid.main, if_pos valid.template]⟩

theorem reads_of_site {site : Site} (loaded : description.site = .ok site) :
    description.Valid ∧ ∃ table : NamespaceTable, table.Reads description.namespaces ∧
      site = description.siteOf table := by
  rcases valid_or_fault description with valid | ⟨error, fault⟩
  · obtain ⟨table, reads, outcome⟩ := site_of_valid valid
    rw [loaded] at outcome
    cases outcome
    exact ⟨valid, table, reads, rfl⟩
  · rw [site_of_fault fault] at loaded
    cases loaded

section
variable {site : Site} {ns other : Namespace} {name folded : String}

theorem mem_namespaces (loaded : description.site = .ok site) :
    ns ∈ site.namespaces ↔ ns ∈ description.namespaces := by
  obtain ⟨_, table, reads, rfl⟩ := reads_of_site loaded
  exact reads.members ns

theorem eq_of_id (loaded : description.site = .ok site) (member : ns ∈ site.namespaces)
    (inside : other ∈ site.namespaces) (same : ns.id = other.id) : ns = other := by
  rw [mem_namespaces loaded] at member inside
  obtain ⟨valid, _⟩ := reads_of_site loaded
  exact List.inj_on_of_nodup_map valid.separate.ids member inside same

theorem eq_of_declares (loaded : description.site = .ok site) (member : ns ∈ site.namespaces)
    (inside : other ∈ site.namespaces) (declared : ns.Declares folded)
    (alsoDeclared : other.Declares folded) : ns = other := by
  apply eq_of_id loaded member inside
  rw [mem_namespaces loaded] at member inside
  obtain ⟨valid, _⟩ := reads_of_site loaded
  exact valid.separate.names ns member other inside folded declared alsoDeclared

theorem namespace?_of_mem (loaded : description.site = .ok site) (member : ns ∈ site.namespaces) :
    site.namespace? ns.id = some ns := by
  have known : (site.namespace? ns.id).isSome = true :=
    List.find?_isSome.mpr ⟨ns, member, beq_self_eq_true ns.id⟩
  obtain ⟨other, found⟩ := Option.isSome_iff_exists.mp known
  rw [found, eq_of_id loaded (Site.mem_of_namespace? found) member (Site.id_of_namespace? found)]

theorem namespaceNamed?_of_declares (loaded : description.site = .ok site)
    (member : ns ∈ site.namespaces) (some : Text.trim name ≠ "")
    (declared : ns.Declares (foldName name)) : site.namespaceNamed? name = Option.some ns := by
  have found := namespace?_of_mem loaded member
  rw [mem_namespaces loaded] at member
  obtain ⟨_, table, reads, rfl⟩ := reads_of_site loaded
  have owner := (reads.index _ _).mpr ⟨ns, member, rfl, declared⟩
  rw [Site.namespaceNamed?, if_neg some, siteOf, owner, Option.bind_some]
  exact found

theorem declares_of_namespaceNamed? (loaded : description.site = .ok site)
    (named : site.namespaceNamed? name = some ns) :
    Text.trim name ≠ "" ∧ ns ∈ site.namespaces ∧ ns.Declares (foldName name) := by
  unfold Site.namespaceNamed? at named
  split at named
  · contradiction
  rename_i solid
  obtain ⟨id, owner, found⟩ := Option.bind_eq_some_iff.mp named
  have member := Site.mem_of_namespace? found
  obtain ⟨_, table, reads, whole⟩ := reads_of_site loaded
  rw [whole] at owner
  obtain ⟨other, listed, otherId, declared⟩ := (reads.index _ _).mp owner
  have inside := (mem_namespaces loaded).mpr listed
  have same := eq_of_id loaded inside member (otherId.trans (Site.id_of_namespace? found).symm)
  exact ⟨solid, member, same ▸ declared⟩

theorem namespaceNamed?_eq_some (loaded : description.site = .ok site) :
    site.namespaceNamed? name = some ns ↔
      Text.trim name ≠ "" ∧ ns ∈ site.namespaces ∧ ns.Declares (foldName name) := by
  constructor
  · exact declares_of_namespaceNamed? loaded
  · rintro ⟨solid, member, declared⟩
    exact namespaceNamed?_of_declares loaded member solid declared

end

end SiteDescription

/-- A description becomes a site exactly if it is valid, and else the first thing that is wrong with
it is reported; it does not matter whether it is read from a text. The site has the namespaces that
are listed, and its index maps the folded names they declare, and nothing else, each to the id of
the one namespace that declares it. -/
theorem SiteDescription.site_outcome (description : SiteDescription) :
    (description.site.isOk = true ↔ description.Valid) ∧
      (∀ error, description.site = .error error ↔ FirstFault description.namespaces error) ∧
      (∀ site, description.site = .ok site →
        (∀ ns, ns ∈ site.namespaces ↔ ns ∈ description.namespaces) ∧
        (∀ folded id,
          site.owners.find? folded = some id ↔ Owned description.namespaces folded id) ∧
        ∀ folded id, Owned description.namespaces folded id →
          ∃! ns, ns ∈ description.namespaces ∧ ns.Declares folded) ∧
      ∀ text, readDescription text = some description → Site.read text = description.site := by
  have faulty : ∀ error, description.site = .error error ↔
      FirstFault description.namespaces error := by
    intro error
    constructor
    · intro refused
      rcases valid_or_fault description with valid | ⟨other, fault⟩
      · obtain ⟨table, _, outcome⟩ := site_of_valid valid
        rw [outcome] at refused
        cases refused
      · rw [site_of_fault fault] at refused
        cases refused
        exact fault
    · exact site_of_fault
  have valid_of_ok : ∀ site, description.site = .ok site → description.Valid := by
    intro site outcome
    rcases valid_or_fault description with valid | ⟨error, fault⟩
    · exact valid
    · rw [site_of_fault fault] at outcome
      cases outcome
  refine ⟨?success, faulty, ?index, ?text⟩
  case success =>
    constructor
    · intro succeeds
      cases outcome : description.site with
      | ok site => exact valid_of_ok site outcome
      | error error =>
        rw [outcome] at succeeds
        cases succeeds
    · intro valid
      obtain ⟨table, _, outcome⟩ := site_of_valid valid
      rw [outcome]
      rfl
  case index =>
    intro site outcome
    have valid := valid_of_ok site outcome
    obtain ⟨table, reads, same⟩ := site_of_valid valid
    rw [outcome] at same
    cases same
    refine ⟨reads.members, reads.index, ?_⟩
    rintro folded id ⟨ns, member, rfl, declared⟩
    refine ⟨ns, ⟨member, declared⟩, ?_⟩
    rintro other ⟨inside, alsoDeclared⟩
    exact List.inj_on_of_nodup_map valid.separate.ids inside member
      (valid.separate.names other inside ns member folded alsoDeclared declared)
  case text =>
    intro text decoded
    unfold Site.read
    rw [decoded]

-- a name that another namespace has is found before an id that is repeated
example :
    let listed := [plainNamespace 0 "", plainNamespace 10 "A", plainNamespace 11 "B",
      { plainNamespace 10 "C" with aliases := ["_b"] }]
    (match ({ standardDescription with namespaces := listed } : SiteDescription).site with
      | .ok _ => none
      | .error error => some error) = some (.sharedName "_b" 11 10) := by
  decide +kernel

end Wikitext
