/-!
# Attack methods

The ways in which one principal can take over another. `AttackMethod.all` lists them in their
canonical order, `AttackMethod.ofName?` finds one by name in any ASCII letter case.
-/

namespace Directory

/-- A way in which one principal can take over another. -/
inductive AttackMethod where
  | aclContainsDeny
  | resetPassword
  | addMember
  | addMemberGroupAttr
  | takeOwnership
  | writeDacl
  | writeAll
  | writePropertyAll
  | writeExtendedAll
  | genericAll
  | allExtendedRights
  | createAnyObject
  | deleteChildrenTarget
  | dcSync
  | readLapsPassword
  | memberOfGroup
  | hasSpn
  | dontReqPreauth
  | owns
  | writeSpn
  | adminTo
  | hasSession
deriving DecidableEq, Repr

namespace AttackMethod

/-- All methods, in their canonical order. -/
def all : List AttackMethod :=
  [aclContainsDeny, resetPassword, addMember, addMemberGroupAttr, takeOwnership, writeDacl,
   writeAll, writePropertyAll, writeExtendedAll, genericAll, allExtendedRights, createAnyObject,
   deleteChildrenTarget, dcSync, readLapsPassword, memberOfGroup, hasSpn, dontReqPreauth, owns,
   writeSpn, adminTo, hasSession]

/-- The name of a method. -/
def name : AttackMethod → String
  | aclContainsDeny => "ACLContainsDeny"
  | resetPassword => "ResetPassword"
  | addMember => "AddMember"
  | addMemberGroupAttr => "AddMemberGroupAttr"
  | takeOwnership => "TakeOwnership"
  | writeDacl => "WriteDACL"
  | writeAll => "WriteAll"
  | writePropertyAll => "WritePropertyAll"
  | writeExtendedAll => "WriteExtendedAll"
  | genericAll => "GenericAll"
  | allExtendedRights => "AllExtendedRights"
  | createAnyObject => "CreateAnyObject"
  | deleteChildrenTarget => "DeleteChildrenTarget"
  | dcSync => "DCsync"
  | readLapsPassword => "ReadLAPSPassword"
  | memberOfGroup => "MemberOfGroup"
  | hasSpn => "HasSPN"
  | dontReqPreauth => "DontReqPreauth"
  | owns => "Owns"
  | writeSpn => "WriteSPN"
  | adminTo => "AdminTo"
  | hasSession => "HasSession"

/-- Whether two texts differ at most in the case of ASCII letters. -/
def sameName (l m : List Char) : Bool :=
  l.map Char.toLower == m.map Char.toLower

/-- The method of a name, whatever the case of its ASCII letters. -/
def ofName? (name : List Char) : Option AttackMethod :=
  all.find? fun m => sameName m.name.toList name

end AttackMethod

end Directory
