import StickerPages.Catalog.Shortcode
import StickerPages.Live.Script
import StickerPages.Main
import StickerPages.Markup.Selector.Reader
import StickerPages.Proofs.Numbering
import StickerPages.Proofs.Retouch
import StickerPages.Proofs.Ancestry
import StickerPages.Proofs.Markers
import StickerPages.Proofs.Verdicts
import StickerPages.Proofs.Sweeping
import StickerPages.Proofs.Settling
import StickerPages.Proofs.Gaps
import StickerPages.Proofs.Reading
import StickerPages.Proofs.Forests
import StickerPages.Proofs.Texts
import StickerPages.Proofs.Changes
import StickerPages.Proofs.Resweeping
import StickerPages.Proofs.Pacing
import StickerPages.Proofs.Upkeep
import StickerPages.Proofs.Answers
import StickerPages.Proofs.Catalogs
import StickerPages.Proofs.Segments
import StickerPages.Proofs.Keeping
import StickerPages.Proofs.Letters
import StickerPages.Proofs.Restyling
import StickerPages.Proofs.Requests
import StickerPages.Proofs.Loading
import StickerPages.Proofs.Tables
import StickerPages.Proofs.Spotting
import StickerPages.Proofs.Origins
import StickerPages.Proofs.Beginnings
import StickerPages.Proofs.Agreement
import StickerPages.Proofs.Timers
import StickerPages.Proofs.Diaries
import StickerPages.Proofs.Debouncing
import StickerPages.Proofs.Schedules
import StickerPages.Proofs.Pictures
import StickerPages.Proofs.Moves
import StickerPages.Proofs.Arrangements
import StickerPages.Proofs.Stopping
import StickerPages.Proofs.Regions
import StickerPages.Proofs.Rounds
import StickerPages.Proofs.Sharing
import StickerPages.Proofs.Shapes
import StickerPages.Proofs.Paths
import StickerPages.Proofs.Sections
import StickerPages.Proofs.Defaults
import StickerPages.Proofs.Calling
import StickerPages.Proofs.Sheets
import StickerPages.Proofs.Sparing
import StickerPages.Proofs.Repeating
import StickerPages.Proofs.Reworking
import StickerPages.Proofs.Strides
import StickerPages.Proofs.Closings
import StickerPages.Proofs.Foresight
import StickerPages.Proofs.Weaving
import StickerPages.Proofs.Replacing
import StickerPages.Proofs.Grafting
import StickerPages.Proofs.Recutting
import StickerPages.Proofs.Mirroring
import StickerPages.Proofs.Streaming
import StickerPages.Proofs.Tallies
import StickerPages.Proofs.Refusals
import StickerPages.Proofs.Overlooking
import StickerPages.Proofs.Cancellations
import StickerPages.Proofs.Rereading
import StickerPages.Proofs.Outlines
import StickerPages.Proofs.Flattening
import StickerPages.Proofs.Unscathed
import StickerPages.Proofs.Fitting
import StickerPages.Proofs.Icons
import StickerPages.Proofs.Mishaps
import StickerPages.Proofs.Layers
import StickerPages.Proofs.Spellings
import StickerPages.Proofs.Layering
import StickerPages.Proofs.Remarks
import StickerPages.Proofs.Appointments
import StickerPages.Proofs.Cuts
import StickerPages.Proofs.Sameness
import StickerPages.Proofs.Merging
import StickerPages.Proofs.Batches
import StickerPages.Proofs.Recognising
