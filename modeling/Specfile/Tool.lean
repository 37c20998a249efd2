import Specfile.Failure
import Specfile.Text.Double

/-! Outcomes of other programs, and what they answer. Only a program that ends with status
zero answers; every other outcome is a failure with status, output and error text. What a
program prints must be text, whatever its status, or asking it breaks off. -/

set_option autoImplicit false

namespace Specfile

/-- A number of seconds. A whole number and a double differ in their texts; a truth value
counts as one second or none, and is written as a word. -/
inductive Seconds where
  | truth (value : Bool)
  | whole (count : Int)
  | double (number : Double)
  deriving DecidableEq, Repr

def Seconds.text : Seconds → Text
  | truth value => if value then "True".toList else "False".toList
  | whole count => Numeral.signed count
  | double number => number.text

namespace Tool

inductive Ending where
  | finished (status : Int) (output errors : Text)
  | undecodable (message : Text)
  | timedOut
  | notStarted (reason : Text)
  deriving DecidableEq, Repr

structure Failure where
  command : List Text
  status : Int
  output : Text
  errors : Text
  deriving DecidableEq, Repr

def answer (command : List Text) (limit : Option Seconds) :
    Ending → Except Fault (Except Failure Text)
  | .finished status output errors =>
    .ok (if status = 0 then .ok output else .error { command, status, output, errors })
  | .undecodable message => .error (.undecodable message)
  | .timedOut =>
    let limit := match limit with
      | none => "None".toList
      | some seconds => seconds.text
    .ok (.error { command, status := -1, output := [],
                  errors := "Command timed out after ".toList ++ limit ++ ['s'] })
  | .notStarted reason => .ok (.error { command, status := -1, output := [], errors := reason })

end Tool

end Specfile
