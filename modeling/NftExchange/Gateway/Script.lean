import NftExchange.Gateway.Session

/-!
# Scripts

A `Script` lists the answers that a node is going to give, method by method, and
`Script.gateway` is the node that gives them. Every call uses up one answer of its method; the
last answer of a method is given again and again, and a method that is not listed is unknown.
-/

namespace NftExchange

/-- The answers that are still to be given, by method. -/
abbrev Script := List (String × List Answer)

namespace Script

/-- The code with which a node refuses a method that it does not have. -/
def unknownMethodCode : Int := -32601

/-- The script after one call of a method. -/
def advance (method : String) (script : Script) : Script :=
  script.map fun (name, answers) =>
    (name, if name = method ∧ 1 < answers.length then answers.tail else answers)

/-- The answer to the next call of a method. -/
def next (method : String) (script : Script) : Answer :=
  ((script.lookup method).bind List.head?).getD
    (.error (.rejected method unknownMethodCode "method not found"))

/-- The node that answers as the script says. -/
def gateway : Gateway Script where
  invoke method _ script := (script.next method, script.advance method)

end Script

end NftExchange
