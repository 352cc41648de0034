import OrderFlow.Event.Customer
import OrderFlow.Text.HostName

/-!
The check of e-mail addresses with which the program runs. The last `@` separates the mailbox from
the domain; the mailbox has at most 64 characters out of a fixed set, the domain at most 255
characters and is a host name, also one of another script, or ends in a network address in brackets.
-/
namespace OrderFlow.Email
open OrderFlow.Text

/-- The characters of a mailbox. -/
def isMailboxChar (c : Char) : Bool :=
  HostName.isAlnum c || ".!#$%&'*+/=?^_`\x7b|\x7d~-".toList.contains c

/-- The text in front of and behind the last `@`. -/
def split? (cs : List Char) : Option (List Char × List Char) :=
  let domain := (cs.reverse.takeWhile (· ≠ '@')).reverse
  if domain.length = cs.length then none
  else some (cs.take (cs.length - domain.length - 1), domain)

/-- What stands between the last bracket that opens and one that closes at the end. -/
def bracketed? (cs : List Char) : Option (List Char) :=
  match cs.reverse with
  | ']' :: rest =>
    let inner := (rest.takeWhile (· ≠ '[')).reverse
    if inner.length = rest.length then none else some inner
  | _ => none

/-- Whether a domain of the basic alphabet is acceptable. -/
def isDomain (cs : List Char) : Bool :=
  HostName.isBasic cs || (bracketed? cs).any HostName.isAddress

/-- Whether a text is an e-mail address. -/
def isValid (s : String) : Bool :=
  match split? s.toList with
  | none => false
  | some (mailbox, domain) =>
    mailbox.length ≤ 64 && domain.length ≤ 255 && mailbox ≠ [] && mailbox.all isMailboxChar &&
      (isDomain domain || (HostName.ascii? domain).any isDomain)

instance : EmailCheck := ⟨isValid⟩

end OrderFlow.Email
