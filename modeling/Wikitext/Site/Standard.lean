import Wikitext.Site.Basic

/-!
The site that is used when no other is given: the namespaces of a new wiki, and the magic words
that the built-in handlers answer to.
-/
namespace Wikitext

def plainNamespace (id : Int) (name : String) : Namespace := ⟨id, name, none, [], false, false⟩

def subpageNamespace (id : Int) (name : String) : Namespace := ⟨id, name, none, [], false, true⟩

def standardDescription : SiteDescription where
  name := some "MediaWiki"
  tags := none
  namespaces :=
    [plainNamespace (-2) "Media", plainNamespace (-1) "Special", plainNamespace 0 "",
      subpageNamespace 1 "Talk", subpageNamespace 2 "User", subpageNamespace 3 "User talk",
      subpageNamespace 4 "Project", subpageNamespace 5 "Project talk",
      { plainNamespace 6 "File" with aliases := ["Image"] },
      { subpageNamespace 7 "File talk" with aliases := ["Image talk"] },
      subpageNamespace 8 "MediaWiki", subpageNamespace 9 "MediaWiki talk",
      subpageNamespace 10 "Template", subpageNamespace 11 "Template talk",
      subpageNamespace 12 "Help", subpageNamespace 13 "Help talk",
      plainNamespace 14 "Category", subpageNamespace 15 "Category talk"]
  words :=
    [("fullpagename", ⟨true, ["FULLPAGENAME"]⟩), ("pagename", ⟨true, ["PAGENAME"]⟩),
      ("namespace", ⟨true, ["NAMESPACE"]⟩), ("basepagename", ⟨true, ["BASEPAGENAME"]⟩),
      ("rootpagename", ⟨true, ["ROOTPAGENAME"]⟩), ("subpagename", ⟨true, ["SUBPAGENAME"]⟩),
      ("talkpagename", ⟨true, ["TALKPAGENAME"]⟩), ("!", ⟨true, ["!"]⟩), ("lc", ⟨false, ["LC:"]⟩),
      ("uc", ⟨false, ["UC:"]⟩), ("lcfirst", ⟨false, ["LCFIRST:"]⟩),
      ("ucfirst", ⟨false, ["UCFIRST:"]⟩),
      ("defaultsort", ⟨true, ["DEFAULTSORT:", "DEFAULTSORTKEY:", "DEFAULTCATEGORYSORT:"]⟩),
      ("displaytitle", ⟨true, ["DISPLAYTITLE"]⟩)]

def Site.blank : Site := ⟨none, [], .empty, .empty, .standard⟩

def Site.standard : Site :=
  match standardDescription.site with
  | .ok site => site
  | .error _ => .blank

end Wikitext
