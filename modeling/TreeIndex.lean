import TreeIndex.Text.Lines
import TreeIndex.Text.Quoted
import TreeIndex.Text.Class.Word
import TreeIndex.Text.Class.Digit
import TreeIndex.Text.Class.Case
import TreeIndex.Dictionary
import TreeIndex.Digest
import TreeIndex.Number.Binary64
import TreeIndex.Pattern.Compiled
import TreeIndex.Yaml.Document
import TreeIndex.Yaml.Merge
import TreeIndex.Main
import TreeIndex.Writing
import TreeIndex.Proofs.Dictionary
import TreeIndex.Proofs.Outcome
import TreeIndex.Proofs.Pattern.Matches
import TreeIndex.Proofs.Extraction.Matcher
import TreeIndex.Proofs.Text.Lines
import TreeIndex.Proofs.Extraction.Items
import TreeIndex.Proofs.Faults
import TreeIndex.Proofs.Index.Build
import TreeIndex.Proofs.Indexer.Life
import TreeIndex.Proofs.Indexer.View
import TreeIndex.Proofs.Disk.Place
import TreeIndex.Proofs.Disk.Walk
import TreeIndex.Proofs.Index.Files
import TreeIndex.Proofs.Indexer.Content
import TreeIndex.Proofs.Disk.Canonical
import TreeIndex.Proofs.Project.Preorder
import TreeIndex.Proofs.Project.Target
import TreeIndex.Proofs.Project.Search
import TreeIndex.Proofs.Project.Closure
import TreeIndex.Proofs.Index.Projects
import TreeIndex.Proofs.Yaml.Merge
import TreeIndex.Proofs.Definitions.Tags
import TreeIndex.Proofs.Definitions.Types
import TreeIndex.Proofs.Definitions.Drafts
import TreeIndex.Proofs.Definitions.Families
import TreeIndex.Proofs.Definitions.Resolved
import TreeIndex.Proofs.Yaml.Equality
import TreeIndex.Proofs.Yaml.Layers
import TreeIndex.Proofs.Definitions.Unread
import TreeIndex.Proofs.Disk.Shown
import TreeIndex.Proofs.Index.Identities
import TreeIndex.Proofs.Index.Replaced
import TreeIndex.Proofs.Yaml.Document
import TreeIndex.Proofs.Yaml.Laws
import TreeIndex.Proofs.Yaml.Siblings
import TreeIndex.Proofs.Template.Placeholder
import TreeIndex.Proofs.Template.Reading
import TreeIndex.Proofs.Template.Expansion
import TreeIndex.Proofs.Extraction.Binding
import TreeIndex.Proofs.Extraction.Bounds
import TreeIndex.Proofs.Pattern.Meaning
import TreeIndex.Proofs.Pattern.Ways
import TreeIndex.Proofs.Pattern.Found
import TreeIndex.Proofs.Pattern.Closing
import TreeIndex.Proofs.Template.Anchored
import TreeIndex.Proofs.Extraction.LineStart
import TreeIndex.Proofs.Pattern.Literal
import TreeIndex.Proofs.Extraction.Echo
import TreeIndex.Proofs.Extraction.Body
import TreeIndex.Proofs.Extraction.DefaultEnd
import TreeIndex.Proofs.Definitions.Declared
import TreeIndex.Proofs.Definitions.Complete
import TreeIndex.Proofs.Disk.Endings
import TreeIndex.Proofs.Index.Classified
import TreeIndex.Proofs.Indexer.Moved
import TreeIndex.Proofs.Disk.Put
import TreeIndex.Proofs.Disk.Located
import TreeIndex.Proofs.Writing
import TreeIndex.Proofs.Writing.Unreplaced
import TreeIndex.Proofs.Disk.Grown
import TreeIndex.Proofs.Scope.Unique
import TreeIndex.Proofs.Text.Tiling
import TreeIndex.Proofs.Extraction.Tiling
import TreeIndex.Proofs.Record.ReadBack
import TreeIndex.Proofs.Record.Hashed
