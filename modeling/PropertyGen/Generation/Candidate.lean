import PropertyGen.Syntax.Declaration

/-!
Candidates: field declarations with at least one attribute list. Nothing is known yet about
what their attributes mean.
-/

namespace PropertyGen

structure Candidate where
  source : Source
  site : Site
deriving Repr

def Node.isCandidate (node : Node) : Bool :=
  node.kind = "field_declaration" && node.hasChild "attribute_list"

def Candidate.declarators (candidate : Candidate) : List Site := candidate.site.declarators

def Candidate.visit (source : Source) (site : Site) (candidates : List Candidate) :
    List Candidate :=
  if site.node.isCandidate then candidates ++ [{ source, site : Candidate }] else candidates

/-- The candidates of a source in document order. -/
def Source.candidates (source : Source) : List Candidate :=
  source.sites.foldl (fun candidates site => Candidate.visit source site candidates) []

end PropertyGen
