import IdentSearch.Configuration
import IdentSearch.History

/-!
What can be asked of a configuration while its file may change, step by step.
-/

namespace IdentSearch.Configuration

structure Workplace where
  configuration : Configuration
  files : Files

inductive Step
  | load (overrides : Entries)
  | loadFile
  | loadEnvironment
  | forget
  | write (path : Text) (content : Content)
  | erase (path : Text)

inductive Answer
  | options (o : Options)
  | entries (es : Entries)
  | done

def step (host : Host) : Step → Workplace → Except Error Answer × Workplace
  | .load overrides, w =>
    let (r, c) := w.configuration.load host w.files overrides
    (r.map .options, { w with configuration := c })
  | .loadFile, w =>
    let (r, c) := w.configuration.fileOptions host w.files
    (r.map .entries, { w with configuration := c })
  | .loadEnvironment, w => (.ok (.entries (environmentOptions w.configuration.environment)), w)
  | .forget, w => (.ok .done, { w with configuration := w.configuration.forget })
  | .write path content, w => (.ok .done, { w with files := w.files.write path content })
  | .erase path, w =>
    if w.files.entry path = .missing then (.error (.nothingToErase path), w)
    else (.ok .done, { w with files := w.files.erase path })

end IdentSearch.Configuration
