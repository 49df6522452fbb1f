import CefCore.Browser.AgentSchedulerOrder
import CefCore.Browser.AuthVaultFirstSave
import CefCore.Browser.AuthVaultOrdering
import CefCore.Browser.AuthVaultPrivacy
import CefCore.Browser.AuthVaultRoundTrip
import CefCore.Browser.BrowserInfoManagerRequests
import CefCore.Browser.DevToolsController
import CefCore.Browser.DevToolsUtil
import CefCore.Browser.ElementRef
import CefCore.Browser.EvalLoop
import CefCore.Browser.EvalResultObserver
import CefCore.Browser.ManagedPaths
import CefCore.Browser.MenuModel
import CefCore.Browser.OriginWhitelist
import CefCore.Browser.OverlaySubtraction
import CefCore.Browser.PageModelGenerations
import CefCore.Browser.PendingPopupCallers
import CefCore.Browser.SecurityPolicy
import CefCore.Browser.SessionPoolIsolation
import CefCore.Browser.SessionPoolOwnership
import CefCore.Browser.SessionPoolPrewarm
import CefCore.Browser.StateJournalRecovery
import CefCore.Browser.StateJournalReopening
import CefCore.Browser.StorageStateDirty
import CefCore.Browser.StorageStateListing
import CefCore.Browser.Truncation
import CefCore.Common.RustStrings
import CefCore.Common.StringMultimapGroups
import CefCore.Frame.AttachmentProtocol
import CefCore.Frame.ContextActions
import CefCore.Frame.FrameObjects
import CefCore.Frame.LifeCycle
import CefCore.MessageRouter.BrowserSideDeferred
import CefCore.MessageRouter.BrowserSideImplCancellation
import CefCore.MessageRouter.BrowserSideImplRemoval
import CefCore.MessageRouter.BrowserSideReentrancy
import CefCore.MessageRouter.CppMessages
import CefCore.MessageRouter.FlatInfoMap
import CefCore.MessageRouter.IdGenerator
import CefCore.MessageRouter.RendererSideCallbacks
import CefCore.MessageRouter.RendererSideLocking
import CefCore.MessageRouter.RouterPairDelivery
import CefCore.NetService.FilterBuffers
import CefCore.NetService.InputStreamReaderRequests
import CefCore.NetService.RangeRequests
import CefCore.ResourceManager.CppOwnership
import CefCore.ResourceManager.CppRemoval
import CefCore.ResourceManager.RustPositions
import CefCore.ResourceManager.RustProviderCompletion
import CefCore.UpdateBindings.UnwrappedArgs
import CefCore.Values.Behaviour
import CefCore.Values.ListSize
import CefCore.Values.ListUse
import CefCore.Wrapper.ByteReadHandler
import CefCore.Wrapper.CefZipArchive
import CefCore.Wrapper.XmlObjectCopy
import CefCore.Wrapper.XmlObjectLoading
import CefCore.Wrapper.ZipArchive
