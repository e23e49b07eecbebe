import Storlets.Library.Traced
import Storlets.Library.Utf8
import Storlets.Samples.Clause

set_option autoImplicit false

/-!
# The CSV storlet

A partition reads beyond its end, and decides by the bytes it has left which records are its own.
-/

namespace Storlets.Csv

open JavaStr Traced
open Utf8 (encode decode)

abbrev Bytes := List UInt8

/-- The parameters of an invocation. -/
structure ReaderEnv where
  selectedFields : Option (List Int) := none
  theWhereClause : Text := []
  recordDelimiter : Text := ['\n']
  startRangePosition : Int
  endRangePosition : Int
  isFirstPartition : Bool

/-- Its own exception, or what it was raised for. -/
structure StorletException where
  cause : Option JavaException

/-- The columns of the line, in this order; a column that the line does not have is passed over. -/
def chooseColumns (traceLine : List Text) (select : List Int) : Except JavaException Text := do
  let columns ← (select.filter fun index => index ≤ (traceLine.length : Int) - 1).mapM
    (Clause.lineOperand traceLine)
  return [','].intercalate columns

/-- How a line is looked at. -/
structure Query where
  select : Option (List Int)
  whereString : Text
  theClause : Clause
  recordSeparatorBytes : Bytes

def Query.columnSelectionActivated (query : Query) : Bool := query.select.any (· ≠ [])

/-- `analysePredicate`, of the parameter without its separator words. -/
def Query.init (env : ReaderEnv) : Except JavaException Query := do
  let whereString := replaceAll "XYZYX" [' '] (trim env.theWhereClause)
  let theClause ← parseClause whereString
  return ⟨env.selectedFields, whereString, theClause, encode env.recordDelimiter⟩

/-- What is to be written for a line, if anything. -/
def Query.append (query : Query) (line : Text) : Except JavaException (Option Bytes) :=
  let traceLine := JavaStr.split ',' line
  if (query.columnSelectionActivated ∨ query.whereString ≠ []) ∧
      (traceLine.length : Int) < query.theClause.getMaxCol then .ok none
  else do
    let valid ← if query.whereString = [] then .ok true else query.theClause.isValid traceLine
    if valid then
      match query.select with
      | some (index :: select) => return some (encode (← chooseColumns traceLine (index :: select)))
      | _ => return some (encode line)
    else return none

/-- What `readLine` has read, in bytes, as the line is encoded. -/
def Query.bytesRead (query : Query) (line : Text) : Int :=
  (encode line).length + query.recordSeparatorBytes.length

abbrev CsvAction := Traced StorletException Bytes

def writeToOutputStream (query : Query) (output : Bytes) : CsvAction Unit :=
  emit (output ++ query.recordSeparatorBytes)

/-- A line that is too short is counted as malformed. -/
def processLine (query : Query) (line : Text) : CsvAction Unit :=
  match query.append line with
  | .ok (some output) => writeToOutputStream query output
  | .ok none | .error .arrayIndexOutOfBounds => pure ()
  | .error exception => throw ⟨some exception⟩

def processLines (query : Query) : Int → List Text → CsvAction Unit
  | _, [] => pure ()
  | rangeBytesLeft, line :: rest =>
      if -1 ≤ rangeBytesLeft then do
        processLine query line
        processLines query (rangeBytesLeft - query.bytesRead line) rest
      else pure ()

def invoke (env : ReaderEnv) (input : Bytes) : CsvAction Unit := do
  let query ← lift ((Query.init env).mapError fun exception => ⟨some exception⟩)
  let rangeBytesLeft := env.endRangePosition - env.startRangePosition + 1
  let lines := readLines (decode input)
  if env.isFirstPartition then processLines query rangeBytesLeft lines
  else
    match lines with
    | [] => throw ⟨none⟩
    | line :: rest => processLines query (rangeBytesLeft - query.bytesRead line) rest

end Storlets.Csv
