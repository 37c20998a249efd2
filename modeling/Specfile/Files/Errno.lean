import Specfile.Text.Basic

/-! The errors with which an operating system refuses to read a file, with their numbers
and descriptions. -/

set_option autoImplicit false

namespace Specfile

inductive Errno where
  | notPermitted
  | notFound
  | inputOutput
  | accessDenied
  | noDevice
  | notDirectory
  | isDirectory
  | tooManyOpen
  | nameTooLong
  | linkLoop
  | other (number : Nat) (description : Text)
  deriving DecidableEq, Repr

namespace Errno

def number : Errno → Nat
  | notPermitted => 1
  | notFound => 2
  | inputOutput => 5
  | accessDenied => 13
  | noDevice => 19
  | notDirectory => 20
  | isDirectory => 21
  | tooManyOpen => 24
  | nameTooLong => 36
  | linkLoop => 40
  | other number _ => number

def description : Errno → Text
  | notPermitted => "Operation not permitted".toList
  | notFound => "No such file or directory".toList
  | inputOutput => "Input/output error".toList
  | accessDenied => "Permission denied".toList
  | noDevice => "No such device".toList
  | notDirectory => "Not a directory".toList
  | isDirectory => "Is a directory".toList
  | tooManyOpen => "Too many open files".toList
  | nameTooLong => "File name too long".toList
  | linkLoop => "Too many levels of symbolic links".toList
  | other _ description => description

def named : List Errno :=
  [notPermitted, notFound, inputOutput, accessDenied, noDevice, notDirectory, isDirectory,
    tooManyOpen, nameTooLong, linkLoop]

def ofNumber (number : Nat) (description : Text) : Errno :=
  (named.find? (·.number = number)).getD (other number description)

end Errno

end Specfile
