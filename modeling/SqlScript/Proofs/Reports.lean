import SqlScript.CommandLine.Run
import SqlScript.Proofs.Content
import SqlScript.Proofs.JsonText
import SqlScript.Proofs.LogSessions
import SqlScript.Proofs.Placeholders

namespace SqlScript.CommandLine

def Switch.name : Switch → String
  | .option .keepTerminator => "--keep-terminator"
  | .option .keepExtraSpaces => "--keep-extra-spaces"
  | .option .keepComments => "--keep-comments"
  | .option .keepEmptyStatements => "--keep-empty-statements"
  | .placeholders => "--placeholders"
  | .json => "--json"
  | .help => "--help"

variable {args : List String} {arg : String} {source? : Option String} {placeholders : Bool}
  {switch : Switch}

end SqlScript.CommandLine
