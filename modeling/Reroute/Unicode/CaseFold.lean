import Reroute.Unicode.CharSet

set_option autoImplicit false

namespace Reroute.Unicode

/-- The classes, each written as the distance from the first member of the class before it times
four, plus the number of further members, and the distances from member to member. -/
def caseClassTable : String :=
  "kBbGFbGFbGFbGFbGFbGFbGFbGFbGFbGGbGmkLFbGFbGFbGFbGFbGFbGFbGGbGkIFbGFbGFbGFbGFbGFbGFbGoCbcPbGb" ++
    "TbGFbGFbGFbGFbGGbGmfUFbGFbGFbGFbGFbGFbGFbGFbGFbGFbGFbGFbGFbGFbGFbGFbGFbGJbGFbGFbGFbGFbGFbGFb" ++
    "GFlgXeZeRFBJBJBJBJBJBJBJBJBJBJBJBJBJBJBJBJBJBJBJBJBJBJBJBRBJBJBNBJBJBJBJBJBJBJBNBJBJBJBJBJBJ" ++
    "BJBJBJBJBJBJBJBJBJBJBJBJBJBJBJBJBNBJBJBNhNFiCFBJBJhYFBJhXFhXFBNdBFhUFhVFBJhXFhZFdTFiDFiBFBJg" ++
    "HFckyZFiDFiFFfAFiGFBJBJBJiKFBJiKNBJiKFBJiJFiJFBJBJiLFBRBNcEWBBOBBOBBNBJBJBJBJBJBJBJBNBJBJBJB" ++
    "JBJBJBJBJBOBBNBRBJBJBJBJBJBJBJBJBJBJBJBJBJBJBJBJBJBJBJBRBJBJBJBJBJBJBJBJBbHpzFFBNpzCFpzZFpzZ" ++
    "FBNcRFcTFBJBJBJBJBJpyTFpyQFpySbPckpRVckpNNckqPFckoEFckpGRckpGFpxFFckpDVpxLbXpwPVckpFVckoGdLc" ++
    "knLFcknIzVdGbGkpXgRBJBRBVfAFfAFfAJeMbDbMJbLFbLFbLJcMJcLFcLFksHFbGGbGbEFbGFbGGbGcMFbGFbGHbGZb" ++
    "JKbGcCFbGJbGFbGFbGGbGWGbGbWKbFBFbGFbGGbGPFbGFbGGbGldDFbGFbGVkrReVIbLBJBJBJBJBJBJBJBJBJBJBJBR" ++
    "HVBNBZdCFdCFdCFdCFdCFdCFdCFdCFdCFdCFdCFdCFdCFdCFdCFdCFbGFbGGbGjfIFbGGbGjfHFbGFbGFbGFbGFbGFbG" ++
    "FbGFbGFbGGbGjeYFbGFbGGbGjeWHbGjeWBFbGFbGFbGFbGFbGFbGFbGGbGjeQFbGFbGFbGFbGFbGhPBKBjdSJBJBJBJB" ++
    "JBJBJBJBJBJBJBJBJBJBJBbPBJBJBJBJBJBJBJBJBJBJBJBJBJBJBJBJBJBJBJBJBJBJBJBJBJBJBJPFBJBJBJBJBJBJ" ++
    "BNBJBJBJBJBJBJBJBJBJBJBJBJBJBJBJBJBJBJBJBJBJBJBJBJBJBJBJBJBJBJBJBJBJBJBJBJBJBJBJBJBJBJBJBJBJ" ++
    "BJBJBNbWFbWFbWFbWFbWFbWFbWFbWFbWFbWFbWFbWFbWFbWFbWFbWFbWFbWFbWFbWFbWFbWFbWFbWFbWFbWFbWFbWFbW" ++
    "FbWFbWFbWFbWFbWFbWFbWFbWFbWrcRktKFktKFktKFktKFktKFktKFktKFktKFktKFktKFktKFktKFktKFktKFktKFkt" ++
    "KFktKFktKFktKFktKFktKFktKFktKFktKFktKFktKFktKFktKFktKFktKFktKFktKFktKFktKFktKFktKFktKFktKJkt" ++
    "KZktKNelSFelSFelSFelSFelSFelSFelSFelSFelSFelSFelSFelSFelSFelSFelSFelSFelSFelSFelSFelSFelSFel" ++
    "SFelSFelSFelSFelSFelSFelSFelSFelSFelSFelSFelSFelSFelSFelSFelSFelSFelSFelSFelSFelSFelSNelSFel" ++
    "SFelSdzPcfmUFcfmUFcfmUFcfmUFcfmUFcfmUFcfmUFcfmUFcfmUFcfmUFcfmUFcfmUFcfmUFcfmUFcfmUFcfmUFcfmU" ++
    "FcfmUFcfmUFcfmUFcfmUFcfmUFcfmUFcfmUFcfmUFcfmUFcfmUFcfmUFcfmUFcfmUFcfmUFcfmUFcfmUFcfmUFcfmUFc" ++
    "fmUFcfmUFcfmUFcfmUFcfmUFcfmUFcfmUFcfmUFcfmUFcfmUFcfmUFcfmUFcfmUFcfmUFcfmUFcfmUFcfmUFcfmUFcfm" ++
    "UFcfmUFcfmUFcfmUFcfmUFcfmUFcfmUFcfmUFcfmUFcfmUFcfmUFcfmUFcfmUFcfmUFcfmUFcfmUFcfmUFcfmUFcfmUF" ++
    "cfmUFcfmUFcfmUFcfmUFcfmUFcfmUFcfmUFcfmUFIFIFIFIFIFImzUcaeKBFBbkZcagYRfqScRcaiYrPBJBJBJBJBJBJ" ++
    "BJBJBJBJBJBJBJBJBJBJBJBJBJBJBJBJBJBJBJBJBJBJBJBJBJBJBJBJBJBJBJBJBJBJBJBJBJBJBJBJBJBKBcGJBJBJ" ++
    "BJBJBJBJBJBJBJBJBJBJBJBJBJBJBJBJBJBJBJBJBJBJBJBbXBJBJBJBJBJBJBJBJBJBJBJBJBJBJBJBJBJBJBJBJBJB" ++
    "JBJBJBJBJBJBJBJBJBJBJBJBJBJBJBJBJBJBJBJBJBJBJBJBJBJBJIFIFIFIFIFIFIFIbLIFIFIFIFIFIbTIFIFIFIFI" ++
    "FIFIFIbLIFIFIFIFIFIFIFIbLIFIFIFIFIFIbXIJIJIJIbLIFIFIFIFIFIFIFIbLcWFcWFdIFdIFdIFdIFdWFdWFeYFe" ++
    "YFeIFeIFeWFeWNIFIFIFIFIFIFIFIbLIFIFIFIFIFIFIFIbLIFIFIFIFIFIFIFIbLIFIJJcNJcBIFIcJIFIRHcFJbxDb" ++
    "ChDQFQFQFQFQFQFQFQFQFQFQFQFQFQFQFQdDBewBbAFbAFbAFbAFbAFbAFbAFbAFbAFbAFbAFbAFbAFbAFbAFbAFbAFb" ++
    "AFbAFbAFbAFbAFbAFbAFbAFbAkxHbWFbWFbWFbWFbWFbWFbWFbWFbWFbWFbWFbWFbWFbWFbWFbWFbWFbWFbWFbWFbWFb" ++
    "WFbWFbWFbWFbWFbWFbWFbWFbWFbWFbWFbWFbWFbWFbWFbWFbWFbWFbWFbWFbWFbWFbWFbWFbWFbWFbWhPBbDBJBJBbDB" ++
    "NBbTBJBJBJBJBJBJBJBJBJBJBJBJBJBJBJBJBJBJBJBJBJBJBJBJBJBJBJBJBJBJBJBJBJBJBJBJBJBJBJBJBJBJBJBJ" ++
    "BJBJBJBJBJBbLBJBVBhbtPBJBJBJBJBRBJBJBJBJBJBJBJBJBJBJBJBJBJBJBJBJBdDBJBJBJBJBJBJBJBJBJBJBJBJB" ++
    "JBuZBJBJBJBJBJBJBRBJBJBJBJBJBJBJBJBJBJBJBJBJBJBJBJBJBJBJBJBJBJBJBJBJBJBJBJBJBJBbTBJBNBJBJBJB" ++
    "JBVBVBJBJbWJBJBJBJBJBJBJBJBJBJBbTbjSFBJBJBJBJBJBJBJBVBJBNBJBJBJBJBJBJBJBeFBevvLBgfXbGFbGFbGF" ++
    "bGFbGFbGFbGFbGFbGFbGFbGFbGFbGFbGFbGFbGFbGFbGFbGFbGFbGFbGFbGFbGFbGFbGhgBbOFbOFbOFbOFbOFbOFbOF" ++
    "bOFbOFbOFbOFbOFbOFbOFbOFbOFbOFbOFbOFbOFbOFbOFbOFbOFbOFbOFbOFbOFbOFbOFbOFbOFbOFbOFbOFbOFbOFbO" ++
    "FbOFbOvDbOFbOFbOFbOFbOFbOFbOFbOFbOFbOFbOFbOFbOFbOFbOFbOFbOFbOFbOFbOFbOFbOFbOFbOFbOFbOFbOFbOF" ++
    "bOFbOFbOFbOFbOFbOFbOFbOyFbNFbNFbNFbNFbNFbNFbNFbNFbNFbNFbNJbNFbNFbNFbNFbNFbNFbNFbNFbNFbNFbNFb" ++
    "NFbNFbNFbNJbNFbNFbNFbNFbNFbNFbNJbNFbNkmNcMFcMFcMFcMFcMFcMFcMFcMFcMFcMFcMFcMFcMFcMFcMFcMFcMFc" ++
    "MFcMFcMFcMFcMFcMFcMFcMFcMFcMFcMFcMFcMFcMFcMFcMFcMFcMFcMFcMFcMFcMFcMFcMFcMFcMFcMFcMFcMFcMFcMF" ++
    "cMFcMFcMyJbGFbGFbGFbGFbGFbGFbGFbGFbGFbGFbGFbGFbGFbGFbGFbGFbGFbGFbGFbGFbGFbGraJbGFbGFbGFbGFbG" ++
    "FbGFbGFbGFbGFbGFbGFbGFbGFbGFbGFbGFbGFbGFbGFbGFbGFbGFbGFbGFbGFbGFbGFbGFbGFbGFbGFbGeznPbGFbGFb" ++
    "GFbGFbGFbGFbGFbGFbGFbGFbGFbGFbGFbGFbGFbGFbGFbGFbGFbGFbGFbGFbGFbGFbGFbGFbGFbGFbGFbGFbGFbGkBbB" ++
    "FbBFbBFbBFbBFbBFbBFbBFbBFbBFbBFbBFbBFbBFbBFbBFbBFbBFbBFbBFbBFbBFbBFbBFbBhdgBbIFbIFbIFbIFbIFb" ++
    "IFbIFbIFbIFbIFbIFbIFbIFbIFbIFbIFbIFbIFbIFbIFbIFbIFbIFbIFbIFbIFbIFbIFbIFbIFbIFbIFbIFbI"

def membersFrom (first : Nat) : List Nat → List Nat
  | [] => [first]
  | distance :: rest => first :: membersFrom (first + distance) rest

def caseClassesFrom (base : Nat) : Nat → List Nat → List (List Nat)
  | fuel + 1, head :: rest =>
    let first := base + head / 4
    membersFrom first (rest.take (head % 4)) :: caseClassesFrom first fuel (rest.drop (head % 4))
  | _, _ => []

def caseClasses : List (List Nat) :=
  let table := numerals caseClassTable
  caseClassesFrom 0 table.length table

/-- The smallest set above the given one that is closed under case folding. -/
def caseClosure (s : CharSet) : CharSet :=
  let met := caseClasses.filter fun members => members.any s.hasCode
  .ofRanges (s.ranges.toList ++ met.flatten.map fun code => (code, code))

end Reroute.Unicode
